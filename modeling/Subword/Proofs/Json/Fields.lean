import Subword.Json.Reader

/-!
# Fields of objects

An object in a document can have a key twice, and then its first place and its
last value count. Where all keys are different, nothing is merged, and the fields
are what stands in the document.

## Theorems

* `Json.mergeFields_of_nodup`: Fields with different keys stay as they are.
-/

namespace Subword

namespace Json

/-- Going over the values of some keys leaves all other keys as they were. -/
theorem getElem?_foldl_insert_of_notMem {fields : List (String × Json)} {key : String}
    (h : key ∉ fields.map Prod.fst) (values : Std.HashMap String Json) :
    (fields.foldl (fun map field => map.insert field.1 field.2) values)[key]? = values[key]? := by
  induction fields generalizing values with
  | nil => rfl
  | cons field rest ih =>
    rw [List.map_cons, List.mem_cons, not_or] at h
    rw [List.foldl_cons, ih h.2, Std.HashMap.getElem?_insert, if_neg]
    intro heq
    exact h.1 (eq_of_beq heq).symm

/-- A key that comes once has its value in the end. -/
theorem getElem?_foldl_insert {fields : List (String × Json)}
    (h : (fields.map Prod.fst).Nodup) {field : String × Json} (hmem : field ∈ fields)
    (values : Std.HashMap String Json) :
    (fields.foldl (fun map field => map.insert field.1 field.2) values)[field.1]?
      = some field.2 := by
  induction fields generalizing values with
  | nil => exact absurd hmem List.not_mem_nil
  | cons first rest ih =>
    have hnodup := List.nodup_cons.1 h
    rw [List.foldl_cons]
    rcases List.mem_cons.1 hmem with rfl | hmem
    · rw [getElem?_foldl_insert_of_notMem hnodup.1, Std.HashMap.getElem?_insert_self]
    · exact ih hnodup.2 hmem _

/-- Keys that are different from those seen before and from each other are all kept, with the
    values that are found for them. -/
theorem foldl_seen {fields : List (String × Json)} (last : Std.HashMap String Json)
    (h : (fields.map Prod.fst).Nodup) : ∀ {seen : Std.HashMap String Unit}
    {done : List (String × Json)}, (∀ field ∈ fields, field.1 ∉ seen) →
      (fields.foldl (fun (seen : Std.HashMap String Unit × List (String × Json)) field =>
        if seen.1.contains field.1 then seen
        else (seen.1.insert field.1 (), (field.1, last.getD field.1 null) :: seen.2))
        (seen, done)).2
        = (fields.map fun field => (field.1, last.getD field.1 null)).reverse ++ done := by
  -- What has been seen only grows by the keys gone over, which do not come again.
  induction fields with
  | nil =>
    intro seen done _
    rfl
  | cons field rest ih =>
    intro seen done hfresh
    have hnodup := List.nodup_cons.1 h
    have hfirst : seen.contains field.1 = false := by
      rw [Std.HashMap.contains_eq_false_iff_not_mem]
      exact hfresh field List.mem_cons_self
    rw [List.foldl_cons, hfirst, if_neg Bool.false_ne_true, ih hnodup.2]
    · rw [List.map_cons, List.reverse_cons, List.append_assoc, List.singleton_append]
    · intro other hother hmem
      rcases Std.HashMap.mem_insert.1 hmem with heq | hmem
      · have hkey := List.mem_map_of_mem hother (f := Prod.fst)
        rw [← eq_of_beq heq] at hkey
        exact hnodup.1 hkey
      · exact hfresh other (List.mem_cons_of_mem field hother) hmem

/-- Fields with different keys stay as they are. -/
theorem mergeFields_of_nodup (fields : List (String × Json))
    (h : (fields.map Prod.fst).Nodup) : mergeFields fields = fields := by
  unfold mergeFields
  have hnone : ∀ field ∈ fields, field.1 ∉ (∅ : Std.HashMap String Unit) := by
    intro field _
    exact Std.HashMap.not_mem_empty
  dsimp only
  rw [foldl_seen _ h hnone, List.append_nil, List.reverse_reverse]
  conv => rhs; rw [← List.map_id fields]
  apply List.map_congr_left
  intro field hmem
  rw [Std.HashMap.getD_eq_getD_getElem?, getElem?_foldl_insert h hmem, Option.getD_some]
  rfl

end Json

end Subword
