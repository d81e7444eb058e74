import MarkupTemplate.Json.Layout
import MarkupTemplate.Text.Identifier
import MarkupTemplate.Text.Width

/-!
# What the program runs with

The alphabet, the metric and the format of numbers are parameters of what is defined and proved in
this library. The program runs with those of the Unicode tables and of JSON text, and this module
brings them in.
-/
