import AccessSync.Text.Composed
import AccessSync.Url.NameTable

/-!
# Text of names

Names that people take for the same are brought to the same text: every character is replaced by
its image, and the images are composed.

* `nameText?_eq_lower`: an ASCII name is put into lower case and nothing more.
-/

namespace AccessSync.Url

/-- The image of `n` under a run that has it. -/
def runImage? : List Nat → Nat → Option Nat
  | [first, last, step, image], n =>
    if first ≤ n ∧ n ≤ last ∧ (n - first) % step = 0 then some (image + (n - first)) else none
  | _, _ => none

/-- The image of a character beyond ASCII under the tables of images. -/
def tableImage? (c : Char) : Option (List Char) :=
  match imageRows.find? (·.head? = some c.toNat) with
  | some row => some (row.tail.map Char.ofNat)
  | none => (imageRuns.findSome? (runImage? · c.toNat)).map fun n => [Char.ofNat n]

/-- The image of a character beyond ASCII. -/
def wideImage? (c : Char) : Option (List Char) :=
  match tableImage? c with
  | some image => some image
  | none =>
    if Text.inRanges droppedRanges c then some []
    else if Text.inRanges refusedRanges c then none
    else some [c]

/-- The image of a character of a name; no name may hold a character without one. -/
def nameImage? (c : Char) : Option (List Char) :=
  if c.toNat < 0x80 then some [c.toLower] else wideImage? c

/-- The images of all characters. -/
def nameImages? : List Char → Option (List Char)
  | [] => some []
  | c :: cs =>
    match nameImage? c, nameImages? cs with
    | some image, some images => some (image ++ images)
    | _, _ => none

/-- The text that a name stands for. -/
def nameText? (cs : List Char) : Option (List Char) := (nameImages? cs).map Text.composed

/-- A text that stands for itself. -/
def isNameText (cs : List Char) : Bool :=
  cs.all (fun c => nameImage? c = some [c]) && Text.composed cs = cs

theorem toNat_toLower_lt {c : Char} (h : c.toNat < 0x80) : c.toLower.toNat < 0x80 := by
  have all : ∀ n < 0x80, (Char.ofNat n).toLower.toNat < 0x80 := by decide
  simpa using all c.toNat h

theorem nameImages?_eq_lower {cs : List Char} (h : ∀ c ∈ cs, c.toNat < 0x80) :
    nameImages? cs = some (cs.map Char.toLower) := by
  induction cs with
  | nil => rfl
  | cons c cs ih =>
    have hc : c.toNat < 0x80 := h c List.mem_cons_self
    simp [nameImages?, nameImage?, hc, ih fun d hd => h d (List.mem_cons_of_mem c hd)]

theorem nameText?_eq_lower {cs : List Char} (h : ∀ c ∈ cs, c.toNat < 0x80) :
    nameText? cs = some (cs.map Char.toLower) := by
  have low : ∀ c ∈ cs.map Char.toLower, c.toNat < 0x300 := by
    intro c hc
    obtain ⟨d, hd, rfl⟩ := List.mem_map.1 hc
    have := toNat_toLower_lt (h d hd)
    omega
  simp [nameText?, nameImages?_eq_lower h, Text.composed_eq_self_of_low low]

end AccessSync.Url
