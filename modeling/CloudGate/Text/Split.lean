/-!
Splitting a text at every occurrence of a character.
-/

namespace CloudGate.Text

/-- The pieces between the separators. There is always one piece more than separators. -/
def splitBy (sep : Char) : List Char → List (List Char)
  | [] => [[]]
  | c :: rest =>
    if c = sep then [] :: splitBy sep rest
    else
      match splitBy sep rest with
      | [] => [[c]]
      | piece :: more => (c :: piece) :: more

/-- The texts before and after the first separator. -/
def splitFirst? (sep : Char) : List Char → Option (List Char × List Char)
  | [] => none
  | c :: rest =>
    if c = sep then some ([], rest)
    else (splitFirst? sep rest).map fun (before, after) => (c :: before, after)

/-- What comes after a separator is shorter than the text. -/
theorem length_of_splitFirst? {sep : Char} {cs before after : List Char}
    (h : splitFirst? sep cs = some (before, after)) : after.length < cs.length := by
  induction cs generalizing before with
  | nil => contradiction
  | cons c rest ih =>
    unfold splitFirst? at h
    split at h
    · obtain ⟨-, rfl⟩ := Prod.mk.inj (Option.some.inj h)
      exact Nat.lt_succ_self _
    · obtain ⟨⟨front, back⟩, hrest, hback⟩ := Option.map_eq_some_iff.mp h
      obtain ⟨-, rfl⟩ := Prod.mk.inj hback
      exact Nat.lt_succ_of_lt (ih hrest)

/-- The text after a given beginning. -/
def afterPrefix? : List Char → List Char → Option (List Char)
  | [], cs => some cs
  | _ :: _, [] => none
  | p :: more, c :: rest => if p = c then afterPrefix? more rest else none

end CloudGate.Text
