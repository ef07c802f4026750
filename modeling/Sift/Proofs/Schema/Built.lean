import Sift.Proofs.FirstSeen
import Sift.Schema

/-!
# Schemas built from a list of fields

A schema that is built field by field has each name once.  A name that comes again keeps its place
(`map_fst_ofFields`) and gets the later type (`field?_ofFields`).
-/

namespace Sift
namespace Schema

variable {ι : Type}

theorem ofFields_concat (name : String) (fields : List (String × FieldType ι))
    (field : String × FieldType ι) :
    ofFields name (fields ++ [field]) = (ofFields name fields).add field.1 field.2 := by
  rw [ofFields, List.foldl_append]
  rfl

theorem name_ofFields (name : String) (fields : List (String × FieldType ι)) :
    (ofFields name fields).name = name := by
  induction fields using List.reverseRecOn with
  | nil => rfl
  | append_singleton fields field ih => rw [ofFields_concat, add, ih]

theorem fields_ofFields (name : String) (fields : List (String × FieldType ι)) :
    (ofFields name fields).fields = Keyed.putAll Prod.fst fields := by
  induction fields using List.reverseRecOn with
  | nil => rfl
  | append_singleton fields field ih => rw [ofFields_concat, add, ih, Keyed.putAll_concat]

/-- The names stand in the order in which they first came. -/
theorem map_fst_ofFields (name : String) (fields : List (String × FieldType ι)) :
    (ofFields name fields).fields.map Prod.fst = (fields.map Prod.fst).eraseDups := by
  rw [fields_ofFields, Keyed.map_putAll]

/-- A name has the type that came last for it. -/
theorem field?_ofFields (name : String) (fields : List (String × FieldType ι)) (key : String) :
    (ofFields name fields).field? key =
      (fields.filter fun field => field.1 = key).getLast?.map Prod.snd := by
  rw [field?, fields_ofFields, Keyed.get?_putAll]

end Schema
end Sift
