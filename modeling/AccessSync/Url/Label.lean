import AccessSync.Text.Segment
import AccessSync.Url.JoiningTable
import AccessSync.Url.Name
import AccessSync.Url.Punycode

/-!
# Labels

A label of a name is a text and has an ASCII form: the text itself, or `xn--` and the text in
Punycode. Either may stand in a name.
-/

namespace AccessSync.Url

/-! ## Joiners -/

/-- A character that letters join across. -/
def isTransparent (c : Char) : Bool := Text.isNonspacing c || c.toNat == 0x1E94B

/-- A letter that joins the one after it. -/
def joinsNext (c : Char) : Bool := Text.inRanges joiningAfter c || Text.inRanges joiningBoth c

/-- A letter that joins the one before it. -/
def joinsPrevious (c : Char) : Bool := Text.inRanges joiningBefore c || Text.inRanges joiningBoth c

/-- The nearest character that letters do not join across passes the test. -/
def nearestIs (test : Char → Bool) (cs : List Char) : Bool :=
  match cs.dropWhile isTransparent with
  | [] => false
  | c :: _ => test c

/-- The joiner may stand behind `before`, nearest first, and in front of `after`: it follows the
sign that silences a vowel, or it keeps two letters apart that would join. -/
def joinerFits (joiner : Char) (before after : List Char) : Bool :=
  (before.head?.any fun c => Text.combiningClass c == 9) ||
    (joiner == '\u200C' && nearestIs joinsNext before && nearestIs joinsPrevious after)

/-- All joiners of a text behind `before`, nearest first, may stand where they do. -/
def joinersFit (before : List Char) : List Char → Bool
  | [] => true
  | c :: after =>
    (if c = '\u200C' ∨ c = '\u200D' then joinerFits c before after else true) &&
      joinersFit (c :: before) after

/-! ## Texts and forms -/

/-- A text that a label may have. -/
def isLabelText (cs : List Char) : Bool :=
  !cs.head?.any Text.isMark && joinersFit [] cs &&
    (cs.all (·.toNat < 0x80) || cs.length ≤ 1000)

/-- A label: its text and its ASCII form. -/
structure Label where
  text : List Char
  ascii : List Char

/-- What an ASCII form begins with. -/
def asciiMark : List Char := ['x', 'n', '-', '-']

/-- The label whose ASCII form is `asciiMark` and `code`. Its text is beyond ASCII and in no need
of a change. -/
def Label.ofCode? (code : List Char) : Option Label :=
  if code.getLast? = some '-' ∨ 2000 < code.length then none
  else match Punycode.decode? code with
    | none => none
    | some text =>
      if text.all (·.toNat < 0x80) || !isNameText text || !isLabelText text then none
      else some ⟨text, asciiMark ++ code⟩

/-- The label that a part of a name's text stands for. -/
def Label.ofChars? (cs : List Char) : Option Label :=
  match Text.afterPrefix? asciiMark cs with
  | some code => Label.ofCode? code
  | none =>
    if !isLabelText cs then none
    else if cs.all (·.toNat < 0x80) then some ⟨cs, cs⟩
    else some ⟨cs, asciiMark ++ Punycode.encode cs⟩

/-- The labels that the parts stand for. -/
def Label.ofParts? : List (List Char) → Option (List Label)
  | [] => some []
  | part :: parts =>
    match Label.ofChars? part, Label.ofParts? parts with
    | some label, some labels => some (label :: labels)
    | _, _ => none

end AccessSync.Url
