import MarkupTemplate.Fault.Pointer

/-!
# Reports

A fault is told to a reader in two forms. The plain form is one line with the reason. The report
adds the place, as the line of the source with the faulty part underlined, and the advice. The word
"error" and the underline are in colour.
-/

namespace MarkupTemplate

namespace Report

/-- The start of a coloured part, by the number of the colour. -/
def colour (number : Nat) : Text := '\x1b' :: '[' :: (Text.ofNat number ++ ['m'])

def red : Text := colour 31

def yellow : Text := colour 33

/-- The end of a coloured part. -/
def uncoloured : Text := colour 0

/-- A number of blanks. -/
def blanks (n : Nat) : Text := List.replicate n ' '

/-- The advice behind a margin. -/
def advice (margin : Text) (help : Text) : Text := margin ++ txt " = help: " ++ help

end Report

open Report

namespace Pointer

/-- The carets below a line, under the columns that the pointer marks. -/
def underline (p : Pointer) : Text := blanks p.column ++ List.replicate p.length '^'

/-- The lines that show a pointer, in the template of the given name, and the advice. -/
def report (p : Pointer) (name help : Option Text) : Text :=
  let number := Text.ofNat (p.line + 1)
  let margin := blanks number.length
  txt "\n " ++ margin ++ txt "--> " ++ name.getD ['?'] ++ ':' :: number ++ ':' ::
      Text.ofNat (p.column + 1)
    ++ txt "\n " ++ margin ++ txt " |"
    ++ txt "\n " ++ number ++ txt " | " ++ p.text
    ++ txt "\n " ++ margin ++ txt " | " ++ yellow ++ p.underline ++ uncoloured
    ++ txt "\n " ++ margin ++ txt " |\n"
    ++ match help with
      | some help => advice margin help ++ ['\n']
      | none => []

end Pointer

namespace Fault

/-- The reason of a fault on one line. -/
def plain (fault : Fault) : Text :=
  red ++ txt "error" ++ uncoloured ++ txt ": " ++ fault.reason

/-- The report of a fault: the reason, the place if there is one, and the advice. -/
def report [Metric] (fault : Fault) : Text :=
  fault.plain ++ match fault.place, fault.help with
    | some place, help => (Pointer.ofPlace place).report fault.name help
    | none, some help => '\n' :: advice [] help
    | none, none => []

end Fault

end MarkupTemplate
