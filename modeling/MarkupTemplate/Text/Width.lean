import MarkupTemplate.Text.Metric
import MarkupTemplate.Text.Width.Table

/-!
# Column widths

How many columns a text takes on a terminal. Most characters take one, wide ones two and combining
ones none; a control character takes one, and CR LF together take one. Some characters change their
width with what follows them: a selector turns a sign into a picture, a joiner makes one picture of
several, tags name the region of a flag, and the letters of a ligature share a column. So a text is
measured from its end, and every character meets the *trail* of what stands to its right.
-/

namespace MarkupTemplate.Width

/-- The right neighbour of a character, as far as it can change the character's width. -/
inductive Neighbour where
  /-- Nothing that matters. -/
  | plain
  | lineFeed
  /-- An emoji shown as a picture. -/
  | picture
  /-- A joiner, and an emoji shown as a picture. -/
  | joinedPicture
  /-- The mark of a keycap, a joiner and a picture. -/
  | joinedKeycap
  /-- A number of tag letters, then the cancel tag, a joiner and a picture. -/
  | tagLetters (count : Nat)
  /-- A number of tag digits, then perhaps tag letters, the cancel tag, a joiner and a picture. -/
  | tagDigits (count : Nat)
  /-- A modifier that sets a skin tone. -/
  | skinTone
  /-- One regional indicator, or several of them. -/
  | flagLetter (several : Bool)
  /-- Regional indicators, an odd or an even number of them, then a joiner and a picture. -/
  | joinedFlagLetter (odd last : Bool)
  /-- The Arabic letter alef. -/
  | alef
  /-- The Hebrew letter lamed, after a joiner or not. -/
  | lamed (joined : Bool)
  /-- A Khmer letter that may be a subscript. -/
  | subscript
  /-- The Buginese letter ya, after a joiner or not. -/
  | ya (joined : Bool)
  /-- The Buginese vowel sign i, a joiner and the letter ya. -/
  | vowelAndYa
  /-- A Tifinagh consonant, after a joiner or not. -/
  | tifinagh (joined : Bool)
  /-- The Tifinagh consonant joiner and a consonant. -/
  | joinedTifinagh
  /-- The second of two Lisu tone letters. -/
  | lisuTone
  /-- The Old Turkic letter i, after a joiner or not. -/
  | oldTurkic (joined : Bool)
  deriving DecidableEq, Repr

/-- What a selector asks the character before it to be shown as. -/
inductive Presentation where
  | picture
  | text
  deriving DecidableEq, Repr

/-- What stands to the right of a character. -/
structure Trail where
  neighbour : Neighbour
  selector : Option Presentation
  deriving DecidableEq, Repr

/-- The trail of a character that nothing relevant follows. -/
def Trail.none : Trail := ⟨.plain, Option.none⟩

namespace Neighbour

/-- The neighbour once a joiner stands before it, for the letters that a joiner or an ignorable mark
leaves in their ligature. A joiner keeps a lam and an alef apart, so alef is not among them. -/
def afterJoiner? : Neighbour → Option Neighbour
  | lamed _ => some (lamed true)
  | subscript => some subscript
  | ya _ => some (ya true)
  | vowelAndYa => some vowelAndYa
  | tifinagh _ => some (tifinagh true)
  | joinedTifinagh => some joinedTifinagh
  | lisuTone => some lisuTone
  | oldTurkic _ => some (oldTurkic true)
  | _ => Option.none

/-- Whether the neighbour is a letter of a ligature. -/
def isLigature (n : Neighbour) : Bool := n = alef || n.afterJoiner?.isSome

/-- The neighbour itself if it is a letter of a ligature, and nothing otherwise. -/
def keepLigature (n : Neighbour) : Neighbour := if n.isLigature then n else plain

/-- Whether the neighbour is a joiner and a picture, with the mark of a keycap or without. An emoji
before it belongs to the same picture. -/
def isJoined (n : Neighbour) : Bool := n = joinedPicture || n = joinedKeycap

end Neighbour

/-! ### One character by itself -/

/-- A regional indicator: two of them make a flag. -/
def isFlagLetter (c : Char) : Bool := 0x1F1E6 ≤ c.toNat && c.toNat ≤ 0x1F1FF

/-- A letter of the tags that name the region of a flag. -/
def isTagLetter (c : Char) : Bool := 0xE0061 ≤ c.toNat && c.toNat ≤ 0xE007A

/-- A digit of the tags that name the region of a flag. -/
def isTagDigit (c : Char) : Bool := 0xE0030 ≤ c.toNat && c.toNat ≤ 0xE0039

def isCancelTag (c : Char) : Bool := c.toNat = 0xE007F

/-- The flag that tags with the name of a region follow. -/
def isBlackFlag (c : Char) : Bool := c.toNat = 0x1F3F4

def isSkinTone (c : Char) : Bool := 0x1F3FB ≤ c.toNat && c.toNat ≤ 0x1F3FF

/-- The columns of a character that nothing relevant follows. -/
def alone (c : Char) : Nat :=
  if c = '\u17D8' then 3
  else if c = '\u17A4' then 2
  else if c = '\u2D7F' then 1
  else if zeroTable.contains c then 0
  else if wideTable.contains c then 2
  else 1

/-- What a character is to the character before it. -/
def neighbourOf (c : Char) : Neighbour :=
  if isFlagLetter c then .flagLetter false
  else if isSkinTone c then .skinTone
  else if pictureTable.contains c then .picture
  else if alefTable.contains c then .alef
  else if c = '\u05DC' then .lamed false
  else if subscriptTable.contains c then .subscript
  else if c = '\u1A10' then .ya false
  else if tifinaghTable.contains c then .tifinagh false
  else if c = '\uA4FC' || c = '\uA4FD' then .lisuTone
  else if c.toNat = 0x10C03 then .oldTurkic false
  else .plain

/-! ### A character and its right neighbour -/

/-- The columns that an emoji sequence or a flag gives to its next character on the left, and what
that character then is to the one before it. -/
def emojiJoin? (n : Neighbour) (c : Char) : Option (Int × Neighbour) :=
  match n with
  | .skinTone => if tonedTable.contains c then some (0, .picture)
      else if c = '\u200D' then some (0, .joinedPicture) else none
  | .picture => if c = '\u200D' then some (0, .joinedPicture) else none
  | .flagLetter several =>
      if isFlagLetter c then some (1, .flagLetter true)
      else if several && c = '\u200D' then some (0, .joinedPicture) else none
  | .joinedPicture =>
      if isFlagLetter c then some (1, .joinedFlagLetter true true)
      else if isSkinTone c then some (0, .skinTone)
      else if c = '\u20E3' then some (0, .joinedKeycap)
      else if isCancelTag c then some (0, .tagLetters 0)
      else if pictureTable.contains c then some (0, .picture) else none
  | .joinedFlagLetter odd last =>
      if isFlagLetter c then some (if odd then -1 else 3, .joinedFlagLetter (!odd) false)
      else if !last && c = '\u200D' then some (0, .joinedPicture) else none
  | .tagLetters n =>
      if isTagLetter c && n < 6 then some (0, .tagLetters (n + 1))
      else if isTagDigit c && n ≤ 4 then some (0, .tagDigits 1)
      else if isBlackFlag c && 3 ≤ n then some (0, .picture) else none
  | .tagDigits n =>
      if isTagDigit c && n < 3 then some (0, .tagDigits (n + 1))
      else if isBlackFlag c && n = 3 then some (0, .picture) else none
  | _ => none

/-- The columns that a ligature gives to its next letter on the left, and what that letter then is
to the one before it. -/
def ligatureJoin? (n : Neighbour) (c : Char) : Option (Int × Neighbour) :=
  match n with
  | .alef => if lamTable.contains c then some (0, .plain)
      else if alone c = 0 && !interruptingTable.contains c then some (0, .alef) else none
  | .lamed true => if c = '\u05D0' then some (0, .plain) else none
  | .subscript => if c = '\u17D2' then some (-1, .plain) else none
  | .ya true => if c = '\u1A17' then some (0, .vowelAndYa) else none
  | .vowelAndYa => if c = '\u1A15' then some (0, .plain) else none
  | .tifinagh joined => if c = '\u2D7F' then some (1, .joinedTifinagh)
      else if joined && tifinaghTable.contains c then some (0, .plain) else none
  | .joinedTifinagh => if tifinaghTable.contains c then some (-1, .plain) else none
  | .lisuTone => if 0xA4F8 ≤ c.toNat && c.toNat ≤ 0xA4FB then some (0, .plain) else none
  | .oldTurkic true => if c.toNat = 0x10C32 then some (0, .plain) else none
  | _ => none

/-- The columns that a character adds to the text on its right. A subscript takes back the column
that it was given as a letter, so the number may be negative. -/
def beside (c : Char) (n : Neighbour) : Int × Trail :=
  let transparent :=
    if c = '\u200D' then n.afterJoiner?
    else if n.afterJoiner?.isSome && transparentTable.contains c then some n else none
  match transparent with
  | some n' => (0, ⟨n', none⟩)
  | none =>
    match (emojiJoin? n c).or (ligatureJoin? n c) with
    | some (columns, n') => (columns, ⟨n', none⟩)
    | none => (alone c, ⟨neighbourOf c, none⟩)

/-- A character below the end of Latin control characters takes one column, but the CR of a CR LF
takes none. -/
def besideLatin (c : Char) (n : Neighbour) : Int × Trail :=
  if c = '\n' then (1, ⟨.lineFeed, none⟩)
  else if c = '\r' && n = .lineFeed then (0, Trail.none)
  else (1, Trail.none)

/-- The columns that a character adds to the text on its right, and what it leaves to the
character before it. -/
def step (c : Char) (trail : Trail) : Int × Trail :=
  if trail.selector = some .picture && selectableTable.contains c then
    (if trail.neighbour.isJoined then 0 else 2, ⟨.picture, none⟩)
  else
    let n :=
      if trail.selector = some .picture then trail.neighbour.keepLigature else trail.neighbour
    if c.toNat ≤ 0xA0 then besideLatin c n
    else if c = '\uFE0F' then
      (0, ⟨if n.isJoined then n else n.keepLigature, some .picture⟩)
    else if c = '\uFE0E' then (0, ⟨n.keepLigature, some .text⟩)
    else if trail.selector = some .text then
      if selectableTable.contains c && pictureTable.contains c
          && !(0x1F200 ≤ c.toNat && c.toNat ≤ 0x1F2FF) then (1, Trail.none)
      else beside c n.keepLigature
    else beside c n

/-- The columns of a text that stands before a text of the given columns and trail. -/
def measure (t : Text) : Int × Trail :=
  t.foldr (fun c right => let here := step c right.2; (here.1 + right.1, here.2)) (0, Trail.none)

/-- The metric that the program runs with. -/
instance : Metric := ⟨fun t => (measure t).1.toNat⟩

end MarkupTemplate.Width
