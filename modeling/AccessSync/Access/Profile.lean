import AccessSync.Json.Value
import AccessSync.Text.Segment

/-!
# Profiles

Named attributes of a resource, in ascending order of their names. An attribute is one text or a
list of texts; in a record a list is its items with commas between them.
-/

namespace AccessSync

/-- The value of an attribute. -/
inductive Attribute
  | one (value : String)
  | many (values : List String)
deriving DecidableEq, Repr

namespace Attribute

/-- The value, when it is one text. -/
def single? : Attribute → Option String
  | .one s => some s
  | .many _ => none

/-- The value as a list. -/
def toList : Attribute → List String
  | .one s => [s]
  | .many items => items

/-- The value in a record. -/
def text : Attribute → String
  | .one s => s
  | .many items => Text.joinWith "," items

end Attribute

/-- A list of named attributes with the value of one set. -/
def setAttribute (name : String) (value : Attribute) :
    List (String × Attribute) → List (String × Attribute)
  | [] => [(name, value)]
  | (other, old) :: rest =>
    if name < other then (name, value) :: (other, old) :: rest
    else if name = other then (name, value) :: rest
    else (other, old) :: setAttribute name value rest

theorem mem_or_eq_of_mem_setAttribute {name : String} {value : Attribute}
    {attributes : List (String × Attribute)} {a : String × Attribute}
    (h : a ∈ setAttribute name value attributes) : a ∈ attributes ∨ a = (name, value) := by
  induction attributes with
  | nil => exact .inr (List.mem_singleton.1 h)
  | cons first rest ih =>
    unfold setAttribute at h
    split at h
    · exact (List.mem_cons.1 h).symm
    · split at h
      · rcases List.mem_cons.1 h with h | h
        · exact .inr h
        · exact .inl (List.mem_cons_of_mem _ h)
      · rcases List.mem_cons.1 h with rfl | h
        · exact .inl List.mem_cons_self
        · exact (ih h).imp_left (List.mem_cons_of_mem _)

/-- **Setting keeps the order of the names.** -/
theorem pairwise_setAttribute {attributes : List (String × Attribute)}
    (h : attributes.Pairwise fun a b => a.1 < b.1) (name : String) (value : Attribute) :
    (setAttribute name value attributes).Pairwise fun a b => a.1 < b.1 := by
  induction attributes with
  | nil => exact List.pairwise_singleton _ _
  | cons first rest ih =>
    obtain ⟨hfirst, hrest⟩ := List.pairwise_cons.1 h
    unfold setAttribute
    split
    · rename_i hlt
      refine List.pairwise_cons.2 ⟨fun a ha => ?_, h⟩
      rcases List.mem_cons.1 ha with rfl | ha
      · exact hlt
      · exact String.lt_trans hlt (hfirst a ha)
    · rename_i hnot
      split
      · rename_i heq
        exact List.pairwise_cons.2 ⟨fun a ha => heq ▸ hfirst a ha, hrest⟩
      · rename_i hne
        -- the name comes after the first one, and whatever else there is does
        have hlt : first.1 < name := by
          apply String.not_le.1
          intro hle
          exact hne (String.le_antisymm hle (String.not_lt.1 hnot))
        refine List.pairwise_cons.2 ⟨fun a ha => ?_, ih hrest⟩
        rcases mem_or_eq_of_mem_setAttribute ha with ha | rfl
        · exact hfirst a ha
        · exact hlt

/-- The attributes of a resource. No name stands twice. -/
@[ext]
structure Profile where
  attributes : List (String × Attribute)
  ascending : attributes.Pairwise fun a b => a.1 < b.1
deriving DecidableEq, Repr

namespace Profile

def empty : Profile := ⟨[], .nil⟩

/-- The profile with the value of an attribute set. -/
def set (p : Profile) (name : String) (value : Attribute) : Profile :=
  ⟨setAttribute name value p.attributes, pairwise_setAttribute p.ascending name value⟩

/-- The profile with an attribute of one text set. -/
def setText (p : Profile) (name value : String) : Profile := p.set name (.one value)

def get? (p : Profile) (name : String) : Option Attribute := p.attributes.lookup name

def size (p : Profile) : Nat := p.attributes.length

def isEmpty (p : Profile) : Bool := p.attributes.isEmpty

/-- The profile as a record. -/
def json (p : Profile) : Json :=
  .object (p.attributes.map fun (name, value) => (name, .text value.text))

end Profile

end AccessSync
