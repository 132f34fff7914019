import CloudGate.Proofs.Json.Basic
import CloudGate.Proofs.Json.Reader

/-!
Numbers that are read from a text: their integers fit 64 bits, signed or unsigned.

* `readNumber_fits`: the digits of an integer are taken only as long as they fit.
* `parse_member_fits`: the members of a document are numbers of this kind.
-/

namespace CloudGate.Json

/-- A number whose integers fit 64 bits. -/
def Number.Fits : Number → Prop
  | .int n => minInt64 ≤ n ∧ n ≤ maxUInt64
  | .real _ => True

/-! ## Digits -/

theorem takeDigits_le {significand count : Nat} {cs : List Char}
    (h : (significand : Int) ≤ maxUInt64) :
    ((takeDigits significand count cs).1 : Int) ≤ maxUInt64 := by
  induction cs generalizing significand count with
  | nil => exact h
  | cons c rest ih =>
    simp only [takeDigits]
    split
    · rename_i htake
      rw [Bool.and_eq_true, decide_eq_true_eq] at htake
      exact ih htake.2
    · exact h

-- With a fraction, an exponent or too many digits, a number is a real one.

theorem realOf_fits {negative : Bool} {significand : Nat} {exponent : Int} {rest left : List Char}
    {n : Number} (h : realOf negative significand exponent rest = .ok (n, left)) : n.Fits := by
  unfold realOf at h
  split at h
  · obtain ⟨rfl, -⟩ := Prod.mk.inj (Except.ok.inj h)
    trivial
  · contradiction

theorem readExponent_fits {negative : Bool} {significand : Nat} {exponent : Int}
    {cs rest : List Char} {n : Number}
    (h : readExponent negative significand exponent cs = .ok (n, rest)) : n.Fits := by
  unfold readExponent at h
  split at h
  split at h
  · contradiction
  · split at h
    · simp only at h
      split at h
      · split at h
        · contradiction
        · obtain ⟨rfl, -⟩ := Prod.mk.inj (Except.ok.inj h)
          trivial
      · exact realOf_fits h
    · contradiction

theorem readScale_fits {negative : Bool} {significand : Nat} {exponent : Int}
    {cs rest : List Char} {n : Number}
    (h : readScale negative significand exponent cs = .ok (n, rest)) : n.Fits := by
  unfold readScale at h
  split at h
  · exact readExponent_fits h
  · exact readExponent_fits h
  · exact realOf_fits h

theorem readFraction_fits {negative : Bool} {significand : Nat} {exponent : Int}
    {cs rest : List Char} {n : Number}
    (h : readFraction negative significand exponent cs = .ok (n, rest)) : n.Fits := by
  unfold readFraction at h
  simp only at h
  split at h
  · exact readScale_fits h
  · split at h
    · contradiction
    · exact readScale_fits h

theorem readLong_fits {negative : Bool} {significand : Nat} {cs rest : List Char} {n : Number}
    (h : readLong negative significand cs = .ok (n, rest)) : n.Fits := by
  unfold readLong at h
  simp only at h
  split at h
  · exact readFraction_fits h
  · exact readScale_fits h

/-! ## Integers -/

theorem readTail_fits {negative : Bool} {significand : Nat} {cs rest : List Char} {n : Number}
    (hfits : (significand : Int) ≤ maxUInt64)
    (h : readTail negative significand cs = .ok (n, rest)) : n.Fits := by
  unfold readTail at h
  split at h
  · exact readFraction_fits h
  · exact readExponent_fits h
  · exact readExponent_fits h
  · split at h
    · obtain ⟨rfl, -⟩ := Prod.mk.inj (Except.ok.inj h)
      exact ⟨by unfold minInt64; omega, hfits⟩
    · split at h
      · exact realOf_fits h
      · rename_i hsmall
        obtain ⟨rfl, -⟩ := Prod.mk.inj (Except.ok.inj h)
        exact ⟨by omega, by unfold maxUInt64; omega⟩

theorem readNumber_fits {negative : Bool} {cs rest : List Char} {n : Number}
    (h : readNumber negative cs = .ok (n, rest)) : n.Fits := by
  unfold readNumber at h
  split at h
  · contradiction
  · split at h
    · contradiction
    · exact readTail_fits (by decide) h
  · split at h
    · simp only at h
      split at h
      · exact readLong_fits h
      · exact readTail_fits (takeDigits_le (by decide)) h
    · contradiction

/-! ## Documents -/

/-- A value that was read is a number, an object, or neither of them. -/
theorem readValue_cases {depth : Nat} {cs rest : List Char} {v : Json}
    (h : readValue depth cs = .ok (v, rest)) :
    (∃ negative digits n, readNumber negative digits = .ok (n, rest) ∧ v = .num n) ∨
      (∃ inner front members, readMembers (fun _ cs => do readValue inner (← readColon cs)) true
        (front.length + 1) front = .ok (members, rest) ∧ v = object members) ∨
      ∀ name, v.get? name = none ∧ ∀ n, v ≠ .num n := by
  unfold readValue at h
  simp only at h
  split at h
  · contradiction
  · obtain ⟨left, -, h⟩ := bind_eq_ok.mp h
    obtain ⟨rfl, rfl⟩ := Prod.mk.inj (Except.ok.inj h)
    exact .inr (.inr fun _ => ⟨rfl, fun _ => Json.noConfusion⟩)
  · obtain ⟨left, -, h⟩ := bind_eq_ok.mp h
    obtain ⟨rfl, rfl⟩ := Prod.mk.inj (Except.ok.inj h)
    exact .inr (.inr fun _ => ⟨rfl, fun _ => Json.noConfusion⟩)
  · obtain ⟨left, -, h⟩ := bind_eq_ok.mp h
    obtain ⟨rfl, rfl⟩ := Prod.mk.inj (Except.ok.inj h)
    exact .inr (.inr fun _ => ⟨rfl, fun _ => Json.noConfusion⟩)
  · obtain ⟨text, -, h⟩ := bind_eq_ok.mp h
    obtain ⟨rfl, rfl⟩ := Prod.mk.inj (Except.ok.inj h)
    exact .inr (.inr fun _ => ⟨rfl, fun _ => Json.noConfusion⟩)
  · split at h
    · contradiction
    · obtain ⟨items, -, h⟩ := bind_eq_ok.mp h
      obtain ⟨rfl, rfl⟩ := Prod.mk.inj (Except.ok.inj h)
      exact .inr (.inr fun _ => ⟨rfl, fun _ => Json.noConfusion⟩)
  · split at h
    · contradiction
    · rename_i front _ _ inner
      obtain ⟨⟨members, left⟩, hmembers, h⟩ := bind_eq_ok.mp h
      obtain ⟨rfl, rfl⟩ := Prod.mk.inj (Except.ok.inj h)
      exact .inr (.inl ⟨inner, front, members, hmembers, rfl⟩)
  · obtain ⟨⟨n, left⟩, hn, h⟩ := bind_eq_ok.mp h
    obtain ⟨rfl, rfl⟩ := Prod.mk.inj (Except.ok.inj h)
    exact .inl ⟨true, _, n, hn, rfl⟩
  · split at h
    · obtain ⟨⟨n, left⟩, hn, h⟩ := bind_eq_ok.mp h
      obtain ⟨rfl, rfl⟩ := Prod.mk.inj (Except.ok.inj h)
      exact .inl ⟨false, _, n, hn, rfl⟩
    · contradiction

theorem readValue_fits {depth : Nat} {cs rest : List Char} {n : Number}
    (h : readValue depth cs = .ok (.num n, rest)) : n.Fits := by
  obtain ⟨_, _, read, hread, hn⟩ | ⟨_, _, _, -, hobject⟩ | hother := readValue_cases h
  · obtain rfl := Json.num.inj hn
    exact readNumber_fits hread
  · contradiction
  · exact absurd rfl ((hother "").2 n)

/-- Every member of an object that was read comes from the reader of its value. -/
theorem member_of_readMembers {α : Type} {value : String → Reader α} {first : Bool} {steps : Nat}
    {cs rest : List Char} {members : List (String × α)}
    (h : readMembers value first steps cs = .ok (members, rest)) {p : String × α}
    (hp : p ∈ members) : ∃ front left, value p.1 front = .ok (p.2, left) := by
  induction steps generalizing first cs members with
  | zero => contradiction
  | succ steps ih =>
    obtain ⟨-, rfl⟩ | ⟨_, key, front, a, left, more, -, -, hvalue, hmore, rfl⟩ :=
      readMembers_cases h
    · contradiction
    · cases hp with
      | head => exact ⟨front, left, hvalue⟩
      | tail _ hp => exact ih hmore hp

/-- A member of a value that was read was read itself. -/
theorem readValue_member {depth : Nat} {cs rest : List Char} {v member : Json} {name : String}
    (h : readValue depth cs = .ok (v, rest)) (hget : v.get? name = some member) :
    ∃ inner front left, readValue inner front = .ok (member, left) := by
  obtain ⟨_, _, _, -, rfl⟩ | ⟨inner, _, members, hmembers, rfl⟩ | hother := readValue_cases h
  · contradiction
  · rw [get?_object, Option.map_eq_some_iff] at hget
    obtain ⟨p, hfind, rfl⟩ := hget
    have hp : p ∈ members := List.mem_reverse.mp (List.mem_of_find?_eq_some hfind)
    obtain ⟨front, left, hvalue⟩ := member_of_readMembers hmembers hp
    obtain ⟨start, -, hvalue⟩ := bind_eq_ok.mp hvalue
    exact ⟨inner, start, left, hvalue⟩
  · rw [(hother name).1] at hget
    contradiction

theorem parse_member_fits {s : String} {v : Json} {name : String} {n : Number}
    (h : parse s = .ok v) (hget : v.get? name = some (.num n)) : n.Fits := by
  obtain ⟨rest, hread⟩ := readAll_eq_ok h
  obtain ⟨inner, front, left, hmember⟩ := readValue_member hread hget
  exact readValue_fits hmember

end CloudGate.Json
