import Mathlib.Data.List.Induction
import SelectionAlgebra.Proofs.Mask.Columns

/-!
What a sequence of inserts leaves in a set of masks: the names in the order in which they first
came, and under each name the mask that was put there last.
-/

namespace SelectionAlgebra

namespace Named

variable {α : Type}

def firstNames (puts : List (Named α)) : List String :=
  (puts.map Named.name).eraseDups

def last? (puts : List (Named α)) (name : String) : Option α :=
  find? puts.reverse name

theorem firstNames_concat (puts : List (Named α)) (entry : Named α) :
    firstNames (puts ++ [entry]) =
      if entry.name ∈ firstNames puts then firstNames puts
      else firstNames puts ++ [entry.name] := by
  simp only [firstNames, List.map_append, List.map_cons, List.map_nil, List.eraseDups_append,
    List.mem_eraseDups, List.removeAll, List.filter_cons, List.filter_nil, List.elem_eq_mem]
  by_cases known : entry.name ∈ puts.map Named.name
  · simp only [known, decide_true, Bool.not_true, Bool.false_eq_true, if_false, if_true]
    exact List.append_nil _
  · simp only [known, decide_false, Bool.not_false, if_false, if_true]
    rfl

theorem last?_concat (puts : List (Named α)) (entry : Named α) (name : String) :
    last? (puts ++ [entry]) name =
      if entry.name = name then some entry.value else last? puts name := by
  rw [last?, List.reverse_concat, find?, List.find?_cons]
  by_cases same : entry.name = name
  · simp [same]
  · simp [same, last?, find?]

end Named

namespace MaskSet

variable {α : Type}

theorem ofList_concat (inserts : List (Named (List α))) (entry : Named (List α)) :
    ofList (inserts ++ [entry]) = (ofList inserts).insert entry.name entry.value :=
  List.foldl_append ..

theorem names_ofList (inserts : List (Named (List α))) :
    (ofList inserts).names = Named.firstNames inserts := by
  induction inserts using List.reverseRecOn with
  | nil => rfl
  | append_singleton inserts entry ih =>
    rw [Named.firstNames_concat, ← ih, ofList_concat]
    exact Named.names_place ..

theorem get?_ofList (inserts : List (Named (List α))) :
    (ofList inserts).get? = Named.last? inserts := by
  funext name
  induction inserts using List.reverseRecOn with
  | nil => rfl
  | append_singleton inserts entry ih => rw [Named.last?_concat, ← ih, ofList_concat, get?_insert]

end MaskSet

end SelectionAlgebra
