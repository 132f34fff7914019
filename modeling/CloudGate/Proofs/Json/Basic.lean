import CloudGate.Json.Basic
import CloudGate.Proofs.Fields

/-!
JSON values: induction over them, texts and other values, and what stands in an object.
-/

namespace CloudGate.Json

/-- Induction over a value, with what holds of the entries of its containers. -/
@[elab_as_elim]
theorem entryInduction {motive : Json → Prop} (null : motive .null) (bool : ∀ b, motive (.bool b))
    (num : ∀ n, motive (.num n)) (str : ∀ s, motive (.str s))
    (arr : ∀ items, (∀ v ∈ items, motive v) → motive (.arr items))
    (obj : ∀ members, (∀ p ∈ members, motive p.2) → motive (.obj members)) (v : Json) :
    motive v := by
  refine @Json.rec motive (fun items => ∀ v ∈ items, motive v)
    (fun members => ∀ p ∈ members, motive p.2) (fun p => motive p.2) null bool num str arr obj
    ?_ ?_ ?_ ?_ ?_ v
  · exact fun _ hv => absurd hv List.not_mem_nil
  · exact fun _ _ hfirst hrest => List.forall_mem_cons.mpr ⟨hfirst, hrest⟩
  · exact fun _ hp => absurd hp List.not_mem_nil
  · exact fun _ _ hfirst hrest => List.forall_mem_cons.mpr ⟨hfirst, hrest⟩
  · exact fun _ _ hvalue => hvalue

theorem text_or_other (v : Json) : (∃ s, v = .str s) ∨ ∀ s, v ≠ .str s := by
  cases v with
  | str s => exact Or.inl ⟨s, rfl⟩
  | _ => exact Or.inr fun _ => Json.noConfusion

theorem nat?_eq_some {v : Json} {n : Nat} : v.nat? = some n ↔ v = nat n := by
  constructor
  · intro h
    unfold nat? at h
    split at h
    · split at h
      · rename_i hpos
        obtain rfl := Option.some.inj h
        simp only [nat, int, Int.toNat_of_nonneg hpos]
      · contradiction
    · contradiction
  · rintro rfl
    simp [nat, int, nat?]

theorem arr?_eq_some {v : Json} {items : List Json} : v.arr? = some items ↔ v = .arr items := by
  cases v <;> simp [arr?]

/-- Of members with equal names the last one counts. -/
theorem get?_object (members : List (String × Json)) (name : String) :
    (object members).get? name = (members.reverse.find? fun p => p.1 == name).map (·.2) :=
  Fields.get?_ofList members name

end CloudGate.Json
