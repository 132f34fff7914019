import CloudGate.Disk.Basic

/-!
The tree of files and folders: what one entry more leaves as it was, and what folders and files that
are there already come to.

* `entry?_put_self`, `entry?_put_of_ne`: an entry that is put in, and the others.
* `createFolders_eq_ok`, `createFolders_again`: a folder that was created is there, and is not
  created again.
* `openFile_eq_ok`, `openFile_again`: a file that is opened is there, and a missing one is empty.
-/

namespace CloudGate.Disk

/-! ## Entries -/

theorem locate_put (d : Disk) (place : List String) (e : Entry) (path : String) :
    (d.put place e).locate path = d.locate path := rfl

theorem entry?_put_self (d : Disk) (place : List String) (e : Entry) :
    entry? (d.put place e) place = some e := by
  simp [put, entry?]

theorem find?_put_of_ne (d : Disk) {place other : List String} (hne : other ≠ place) (e : Entry) :
    (d.put place e).entries.find? (·.1 == other) = d.entries.find? (·.1 == other) := by
  have hfirst : (place == other) = false := by simp [Ne.symm hne]
  simp only [put, List.find?_cons, hfirst, List.find?_filter]
  congr 1
  funext p
  by_cases hp : p.1 = other
  · simp [hp, hne]
  · simp [hp]

/-- What lies below a place does so still if one of the entries there is replaced. -/
theorem any_isPrefixOf_put {d : Disk} {place other : List String}
    (h : (d.entries.any fun p => other.isPrefixOf p.1) = true) (e : Entry) :
    ((d.put place e).entries.any fun p => other.isPrefixOf p.1) = true := by
  obtain ⟨p, hp, hprefix⟩ := List.any_eq_true.mp h
  refine List.any_eq_true.mpr ?_
  by_cases hplace : p.1 = place
  · exact ⟨(place, e), List.mem_cons_self .., hplace ▸ hprefix⟩
  · refine ⟨p, List.mem_cons_of_mem _ (List.mem_filter.mpr ⟨hp, ?_⟩), hprefix⟩
    simpa using hplace

/-- What is at another place stays there, also a folder that exists by what is in it only. -/
theorem entry?_put_of_ne {d : Disk} {place other : List String} (hne : other ≠ place) {x : Entry}
    (h : d.entry? other = some x) (e : Entry) : entry? (d.put place e) other = some x := by
  unfold entry? at h ⊢
  rw [find?_put_of_ne d hne]
  split at h
  · exact h
  · split at h
    · rename_i hfolder
      obtain rfl := Option.some.inj h
      rw [Bool.or_eq_true] at hfolder
      rw [if_pos]
      rw [Bool.or_eq_true]
      exact hfolder.imp_right fun hbelow => any_isPrefixOf_put hbelow e
    · contradiction

/-- Only an entry of its own makes a file. -/
theorem entry?_eq_file {d : Disk} {place : List String} {text : String} :
    d.entry? place = some (.file text) ↔
      ∃ p, d.entries.find? (·.1 == place) = some (p, .file text) := by
  unfold entry?
  split
  · rename_i p e hfind
    rw [hfind]
    constructor
    · intro h
      obtain rfl := Option.some.inj h
      exact ⟨p, rfl⟩
    · rintro ⟨q, heq⟩
      rw [(Prod.mk.inj (Option.some.inj heq)).2]
  · rename_i hfind
    rw [hfind]
    constructor
    · intro h
      split at h
      · exact absurd (Option.some.inj h) Entry.noConfusion
      · contradiction
    · rintro ⟨q, heq⟩
      contradiction

theorem read?_eq_some {d : Disk} {path text : String} :
    d.read? path = some text ↔ path ≠ "" ∧ d.entry? (d.locate path) = some (.file text) := by
  unfold read?
  split
  · rename_i text' hfile
    by_cases hempty : path = ""
    · simp [hempty]
    · simp [hempty, hfile]
  · rename_i hfile
    constructor
    · intro h
      contradiction
    · rintro ⟨-, h⟩
      exact absurd h (hfile text)

/-! ## Folders -/

/-- The folder of a path exists. The empty path stands for the working folder. -/
def HasFolder (d : Disk) (path : String) : Prop :=
  path = "" ∨ d.entry? (d.locate path) = some .folder

theorem createFolders_eq_ok {d d' : Disk} {path : String} (h : d.createFolders path = .ok d') :
    d'.HasFolder path ∧ (d' = d ∨ ∃ place, d.entry? place = none ∧ d' = d.put place .folder) := by
  unfold createFolders at h
  simp only at h
  split at h
  · rename_i hempty
    obtain rfl := Except.ok.inj h
    exact ⟨.inl hempty, .inl rfl⟩
  · split at h
    · rename_i hfolder
      obtain rfl := Except.ok.inj h
      exact ⟨.inr hfolder, .inl rfl⟩
    · contradiction
    · rename_i hnone
      split at h
      · contradiction
      · obtain rfl := Except.ok.inj h
        exact ⟨.inr (entry?_put_self ..), .inr ⟨_, hnone, rfl⟩⟩

/-- Folders that are created leave the texts of all files. -/
theorem read?_createFolders {d d' : Disk} {folder : String} (h : d.createFolders folder = .ok d')
    (path : String) : d'.read? path = d.read? path := by
  obtain ⟨-, rfl | ⟨place, hnone, rfl⟩⟩ := createFolders_eq_ok h
  · rfl
  · refine Option.ext fun text => ?_
    rw [read?_eq_some, read?_eq_some, locate_put]
    by_cases hplace : d.locate path = place
    · simp [hplace, hnone, entry?_put_self]
    · rw [entry?_eq_file, entry?_eq_file, find?_put_of_ne d hplace]

theorem createFolders_again {d : Disk} {path : String} (h : d.HasFolder path) :
    d.createFolders path = .ok d := by
  unfold createFolders
  simp only
  split
  · rfl
  · rename_i hne
    rcases h with hempty | hfolder
    · contradiction
    · rw [hfolder]

/-- An entry in the place of a file, or where nothing was, does not take a folder away. -/
theorem HasFolder.put {d : Disk} {path : String} (h : d.HasFolder path) {place : List String}
    (hplace : d.entry? place ≠ some .folder) (e : Entry) : (d.put place e).HasFolder path := by
  rcases h with hempty | hfolder
  · exact .inl hempty
  · refine .inr ?_
    rw [locate_put]
    exact entry?_put_of_ne (fun heq : d.locate path = place => hplace (heq ▸ hfolder)) hfolder e

/-! ## Files -/

/-- A file of the given text is at a path. -/
structure HasFile (d : Disk) (path text : String) : Prop where
  named : path ≠ ""
  plain : (path.toList.getLast? == some '/') = false
  file : d.entry? (d.locate path) = some (.file text)

theorem HasFile.read? {d : Disk} {path text : String} (h : d.HasFile path text) :
    d.read? path = some text := read?_eq_some.mpr ⟨h.named, h.file⟩

/-- Opening a file leaves its text, and a file that was missing has none. -/
theorem openFile_eq_ok {d d' : Disk} {path : String} (h : d.openFile path = .ok d') :
    d'.HasFile path ((d.read? path).getD "") ∧
      (d' = d ∨ d.entry? (d.locate path) = none ∧ d' = d.put (d.locate path) (.file "")) := by
  unfold openFile at h
  simp only at h
  split at h
  · contradiction
  · rename_i hnamed
    split at h
    · contradiction
    · rename_i text hfile
      split at h
      · contradiction
      · rename_i hplain
        obtain rfl := Except.ok.inj h
        rw [read?_eq_some.mpr ⟨hnamed, hfile⟩]
        exact ⟨⟨hnamed, by simpa using hplain, hfile⟩, .inl rfl⟩
    · rename_i hnone
      split at h
      · contradiction
      · split at h
        · contradiction
        · split at h
          · contradiction
          · rename_i hplain
            obtain rfl := Except.ok.inj h
            have htext : d.read? path = none := by
              unfold Disk.read?
              rw [hnone]
            rw [htext]
            exact ⟨⟨hnamed, by simpa using hplain, entry?_put_self ..⟩, .inr ⟨hnone, rfl⟩⟩

theorem openFile_again {d : Disk} {path text : String} (h : d.HasFile path text) :
    d.openFile path = .ok d := by
  unfold openFile
  simp only [h.named, ↓reduceIte, h.file, h.plain]
  rfl

/-- Text that is written at the end of a file comes after the text that it has. -/
theorem HasFile.append {d : Disk} {path text : String} (h : d.HasFile path text) (more : String) :
    (d.append path more).HasFile path (text ++ more) where
  named := h.named
  plain := h.plain
  file := by
    unfold Disk.append
    rw [h.file]
    exact entry?_put_self ..

theorem HasFile.append_eq {d : Disk} {path text : String} (h : d.HasFile path text)
    (more : String) :
    d.append path more = d.put (d.locate path) (.file (text ++ more)) := by
  unfold Disk.append
  rw [h.file]

end CloudGate.Disk
