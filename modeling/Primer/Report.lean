import Primer.Text.Lines

/-!
# Reports

A report collects issues. An issue has a heading, pictures of places in a text, and closing lines. The
issues are shown all at once, each below a ruler; a talkative report also says along the way what is
being done.

Who shows an issue chooses how to draw a marked place. `Mark.picture` is one way to draw it, and the default.
-/

namespace Primer

/-- A place in a text to be pointed at, with a caption. -/
structure Mark where
  text : List Char
  offset : Int
  caption : String

/-- The picture of a marked place. -/
def Mark.picture (m : Mark) : String :=
  String.ofList ((Text.Place.ofOffset m.text m.offset).picture m.caption.toList)

/-- Something that went wrong. -/
structure Issue where
  heading : String
  marks : List Mark := []
  footer : List String := []

/-- The text of an issue: the heading, an empty line, the pictures and the closing lines. -/
def Issue.text (i : Issue) (draw : Mark → String := Mark.picture) : String :=
  "\n".intercalate (i.heading :: "" :: i.marks.map draw ++ i.footer)

/-- The nearest offset at which a text has a character; zero in an empty text. -/
def clampOffset (text : List Char) (offset : Int) : Int :=
  max 0 (min offset ((text.length : Int) - 1))

namespace Issue

/-- A text that could not be read. -/
def ofTextError (text : List Char) (file message : String) (offset : Int) : Issue :=
  { heading := "Syntax error in " ++ file ++ ": " ++ message
    marks := [{ text, offset := clampOffset text offset, caption := "got confused here" }] }

/-- A program that did not pass its check. -/
def ofComplaint (text : List Char) (message : String) (offset : Int) : Issue :=
  { heading := "This program does not check out: " ++ message
    marks := [{ text, offset := clampOffset text offset, caption := "" }] }

/-- A run that failed. -/
def ofFault (family message : String) : Issue :=
  { heading := "The program failed while running (" ++ family ++ ").", footer := [message] }

/-- A file that could not be read. -/
def ofFile (path cause : String) : Issue :=
  { heading := "I see no readable file called " ++ path ++ " (" ++ cause ++ ")." }

end Issue

/-- The issues so far, and whether to say what is being done. -/
structure Report where
  talkative : Bool := false
  issues : List Issue := []

/-- The line above each issue. -/
def ruler : String :=
  String.join (List.replicate 20 "  -")

namespace Report

/-- Whether nothing went wrong. -/
def isOk (r : Report) : Bool :=
  r.issues.isEmpty

/-- The report with one more issue. -/
def add (r : Report) (i : Issue) : Report :=
  { r with issues := r.issues ++ [i] }

/-- What a report says along the way. -/
def info (r : Report) (items : List String) : String :=
  if r.talkative then " ".intercalate items ++ "\n" else ""

/-- All issues, each below a ruler. -/
def complaints (r : Report) (draw : Mark → String := Mark.picture) : String :=
  String.join (r.issues.map fun i => ruler ++ "\n" ++ i.text draw ++ "\n")

end Report

end Primer
