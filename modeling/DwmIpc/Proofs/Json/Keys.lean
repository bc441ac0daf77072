import DwmIpc.Json.Document
import Mathlib.Data.List.Nodup

/-!
# Keys of an object that was read

An object may name a key more than once. `assign` keeps the first place of a key
and takes its last value, so that an object which was read has no key twice
(`nodup_readBytes`).
-/

namespace DwmIpc.Json

variable {limits : Limits} {fuel depth : Nat} {t rest : Text} {value : Json}
  {fields done : List (Text × Json)} {items : List Json} {key : Text}

/-- A key that is there keeps its place, and a new one goes to the front. -/
theorem keys_assign (fields : List (Text × Json)) (key : Text) (value : Json) :
    (assign fields key value).map Prod.fst =
      if key ∈ fields.map Prod.fst then fields.map Prod.fst else key :: fields.map Prod.fst := by
  have hany : fields.any (·.1 == key) = true ↔ key ∈ fields.map Prod.fst := by
    simp [List.any_eq_true, List.mem_map]
  unfold assign
  by_cases hmem : key ∈ fields.map Prod.fst
  · rw [if_pos (hany.2 hmem), if_pos hmem, List.map_map]
    refine List.map_congr_left fun field _ => ?_
    rw [Function.comp_apply]
    split
    next heq => exact heq.symm
    next => rfl
  · rw [if_neg (mt hany.1 hmem), if_neg hmem]
    rfl

/-- Assigning keeps the keys distinct. -/
theorem nodup_assign (h : (fields.map Prod.fst).Nodup) (key : Text) (value : Json) :
    ((assign fields key value).map Prod.fst).Nodup := by
  rw [keys_assign]
  split
  next => exact h
  next hnew => exact List.nodup_cons.2 ⟨hnew, h⟩

/-- The rest of an object gives an object. -/
theorem nodup_readFields (hdone : (done.map Prod.fst).Nodup)
    (h : readFields limits fuel depth done t = .ok (value, rest)) :
    ∃ fields, value = .obj fields ∧ (fields.map Prod.fst).Nodup := by
  induction fuel generalizing done t with
  | zero => cases h
  | succ fuel ih =>
    unfold readFields at h
    split at h
    next =>
      split at h
      next => cases h
      next key _ _ =>
        split at h
        next =>
          split at h
          next => cases h
          next v _ _ =>
            have hassign := nodup_assign hdone key v
            split at h
            next =>
              obtain ⟨rfl, -⟩ := Prod.mk.inj (Except.ok.inj h)
              exact ⟨_, rfl, by rw [List.map_reverse]; exact List.nodup_reverse.2 hassign⟩
            next => exact ih hassign h
            next => cases h
        next => cases h
    next => cases h

/-- The rest of an array gives an array. -/
theorem exists_of_readItems (h : readItems limits fuel depth items t = .ok (value, rest)) :
    ∃ items, value = .arr items := by
  induction fuel generalizing items t with
  | zero => cases h
  | succ fuel ih =>
    unfold readItems at h
    split at h
    next => cases h
    next =>
      split at h
      next =>
        obtain ⟨rfl, -⟩ := Prod.mk.inj (Except.ok.inj h)
        exact ⟨_, rfl⟩
      next => exact ih h
      next => cases h

/-- A number is no object. -/
theorem readNumber_ne_obj (h : readNumber limits t = .ok (value, rest)) : value ≠ .obj fields := by
  unfold readNumber at h
  rintro rfl
  grind

theorem readWord?_ne_obj (h : readWord? t = some (value, rest)) : value ≠ .obj fields := by
  obtain ⟨⟨word, v⟩, hmem, hword⟩ := List.exists_of_findSome?_eq_some h
  dsimp only at hword
  split at hword
  next =>
    obtain ⟨rfl, -⟩ := Prod.mk.inj (Option.some.inj hword)
    rintro rfl
    simp [words] at hmem
  next => cases hword

/-- A value that is an object was read field by field. -/
theorem nodup_readValue (h : readValue limits fuel depth t = .ok (.obj fields, rest)) :
    (fields.map Prod.fst).Nodup := by
  have hempty : (([] : List (Text × Json)).map Prod.fst).Nodup := List.nodup_nil
  cases fuel with
  | zero => cases h
  | succ fuel =>
    unfold readValue at h
    split at h
    next => split at h <;> cases h
    next =>
      split at h
      next => cases h
      next =>
        split at h
        next => cases h
        next =>
          obtain ⟨items, hitems⟩ := exists_of_readItems h
          cases hitems
    next =>
      split at h
      next => cases h
      next =>
        split at h
        next =>
          obtain ⟨hnil, -⟩ := Prod.mk.inj (Except.ok.inj h)
          obtain rfl := Json.obj.inj hnil
          exact hempty
        next =>
          obtain ⟨_, hfields, hnodup⟩ := nodup_readFields hempty h
          obtain rfl := Json.obj.inj hfields
          exact hnodup
    next =>
      split at h
      next hword => exact absurd rfl (readWord?_ne_obj (hword.trans (congrArg some (Except.ok.inj h))))
      next => exact absurd rfl (readNumber_ne_obj h)

/-- An object that was read has no key twice. -/
theorem nodup_readBytes {payload : Bytes} (h : readBytes payload = .ok (.obj fields)) :
    (fields.map Prod.fst).Nodup := by
  unfold readBytes at h
  split at h
  next => cases h
  next =>
    unfold read at h
    split at h
    next => cases h
    next value _ hread =>
      split at h
      next =>
        obtain rfl := Except.ok.inj h
        exact nodup_readValue hread
      next => cases h

end DwmIpc.Json
