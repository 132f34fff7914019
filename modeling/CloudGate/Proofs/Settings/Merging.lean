import CloudGate.Proofs.Fields.Rearrangement
import CloudGate.Proofs.Verdict
import CloudGate.Settings.Load

/-!
Settings from layers: of the layers that set a setting the last one counts, whatever else the layers
set.

* `Setting`: the known settings, and what a value means for each.
* `Value.get?_mergeMembers`: what merging does to a single member.
* `Suits.merge`, `Suits.setBy?_mergeMembers`: one layer more.
* `suits_mergeLayers`: all layers.
* `Suits.ofMembers`: the settings of a layer are what it sets, and defaults.
-/

namespace CloudGate.Settings

/-! ## The known settings -/

/-- The known settings, with the types of their values. -/
inductive Setting : Type → Type
  | apiUrl : Setting String
  | tokenEnv : Setting String
  | token : Setting (Option String)
  | timeoutSeconds : Setting Nat
  | format : Setting (Option OutputFormat)
  | color : Setting Bool
  | auditEnabled : Setting Bool
  | auditPath : Setting (Option String)
  | logFile : Setting (Option String)

namespace Setting

variable {α : Type}

def all : List (Sigma Setting) :=
  [⟨_, .apiUrl⟩, ⟨_, .tokenEnv⟩, ⟨_, .token⟩, ⟨_, .timeoutSeconds⟩, ⟨_, .format⟩, ⟨_, .color⟩,
    ⟨_, .auditEnabled⟩, ⟨_, .auditPath⟩, ⟨_, .logFile⟩]

theorem mem_all (s : Setting α) : ⟨α, s⟩ ∈ all := by
  cases s <;> simp [all]

def sectionName : Setting α → String
  | .apiUrl | .tokenEnv | .token | .timeoutSeconds => "provider"
  | .format | .color => "output"
  | .auditEnabled | .auditPath => "audit"
  | .logFile => "logging"

def key : Setting α → String
  | .apiUrl => "api_url"
  | .tokenEnv => "token_env"
  | .token => "token"
  | .timeoutSeconds => "timeout_seconds"
  | .format => "format"
  | .color => "color"
  | .auditEnabled => "enabled"
  | .auditPath => "path"
  | .logFile => "file"

/-- The value of a setting. -/
def of : Setting α → Settings → α
  | .apiUrl, c => c.provider.apiUrl
  | .tokenEnv, c => c.provider.tokenEnv
  | .token, c => c.provider.token
  | .timeoutSeconds, c => c.provider.timeoutSeconds
  | .format, c => c.output.format
  | .color, c => c.output.color
  | .auditEnabled, c => c.audit.enabled
  | .auditPath, c => c.audit.path
  | .logFile, c => c.logging.file

/-- What a single value means for a setting, if it is of the right type. -/
def ofScalar? : Setting α → Scalar → Option α
  | .apiUrl, .str s | .tokenEnv, .str s => some s
  | .token, .str s | .auditPath, .str s | .logFile, .str s => some (some s)
  | .timeoutSeconds, .int n _ => if 0 ≤ n then some n.toNat else none
  | .format, .str s => (OutputFormat.all.find? fun f => f.name == s).map some
  | .color, .bool b | .auditEnabled, .bool b => some b
  | _, _ => none

end Setting

/-! ## Layers -/

def Value.scalar? : Value → Option Scalar
  | .scalar _ x => some x
  | _ => none

/-- The members of a section. What is no table has none. -/
def sectionOf (m : Fields Value) (name : String) : Fields Value :=
  match m.get? name with
  | some (.table _ members) => members
  | _ => []

namespace Setting

variable {α : Type}

def ofValue? (s : Setting α) (v : Value) : Option α := v.scalar?.bind s.ofScalar?

/-- The value that a layer has in the place of a setting. -/
def at? (s : Setting α) (m : Fields Value) : Option Value :=
  (sectionOf m s.sectionName).get? s.key

/-- What a layer sets a setting to. -/
def setBy? (s : Setting α) (m : Fields Value) : Option α := (s.at? m).bind s.ofValue?

end Setting

/-- A layer has a value of the right type in the place of a setting, or none. -/
def Setting.Typed {α : Type} (s : Setting α) (m : Fields Value) : Prop :=
  ∀ v : Value, s.at? m = some v → (s.ofValue? v).isSome

/-- A layer in which sections are tables. -/
structure Sectioned (m : Fields Value) : Prop where
  sorted : Fields.Sorted m
  table : ∀ {α : Type} (s : Setting α) {v : Value}, m.get? s.sectionName = some v →
    ∃ source members, v = .table source members ∧ Fields.Sorted members

/-- A layer in which sections are tables and settings are of the right types. -/
structure Suits (m : Fields Value) : Prop where
  sorted : Fields.Sorted m
  table : ∀ {α : Type} (s : Setting α) {v : Value}, m.get? s.sectionName = some v →
    ∃ source members, v = .table source members ∧ Fields.Sorted members
  typed : ∀ {α : Type} (s : Setting α) {v : Value}, s.at? m = some v → (s.ofValue? v).isSome

theorem Suits.sectioned {m : Fields Value} (h : Suits m) : Sectioned m := ⟨h.sorted, h.table⟩

theorem Suits.typedAt {m : Fields Value} (h : Suits m) {α : Type} (s : Setting α) : s.Typed m :=
  fun _ => h.typed s

theorem suits_nil : Suits [] where
  sorted := List.Pairwise.nil
  table _ _ h := by contradiction
  typed _ _ h := by contradiction

section Layers

variable {α : Type} {m later : Fields Value}

theorem sectionOf_of_get? {name : String} {source : Source} {members : Fields Value}
    (h : m.get? name = some (.table source members)) : sectionOf m name = members := by
  unfold sectionOf
  rw [h]

theorem sectionOf_of_none {name : String} (h : m.get? name = none) : sectionOf m name = [] := by
  unfold sectionOf
  rw [h]

/-- A section is missing, or a table. -/
theorem Sectioned.section_cases (h : Sectioned m) (s : Setting α) :
    m.get? s.sectionName = none ∨ ∃ source members,
      m.get? s.sectionName = some (.table source members) ∧ Fields.Sorted members := by
  cases hget : m.get? s.sectionName with
  | none => exact .inl rfl
  | some v =>
    obtain ⟨source, members, rfl, hsorted⟩ := h.table s hget
    exact .inr ⟨source, members, rfl, hsorted⟩

/-- The section of a setting that is set. -/
theorem Sectioned.get?_of_at? (h : Sectioned m) {s : Setting α} {v : Value}
    (hv : s.at? m = some v) :
    ∃ source, m.get? s.sectionName = some (.table source (sectionOf m s.sectionName)) := by
  rcases h.section_cases s with hnone | ⟨source, members, hsome, -⟩
  · unfold Setting.at? at hv
    rw [sectionOf_of_none hnone] at hv
    contradiction
  · rw [sectionOf_of_get? hsome]
    exact ⟨source, hsome⟩

/-! ## Merging -/

/-- A later value over an earlier one, if there is one. -/
def Value.onto (earlier : Option Value) (v : Value) : Value :=
  match earlier with
  | some e => merge e v
  | none => v

theorem Value.mergeMembers_nil (m : Fields Value) : mergeMembers m [] = m := by
  rw [mergeMembers]

theorem Value.sorted_mergeMembers (hm : Fields.Sorted m) (later : Fields Value) :
    Fields.Sorted (mergeMembers m later) := by
  induction later generalizing m with
  | nil =>
    rw [mergeMembers_nil]
    exact hm
  | cons p rest ih =>
    obtain ⟨n, v⟩ := p
    rw [mergeMembers]
    exact ih (hm.insert n _)

/-- Merging looks at each name by itself. -/
theorem Value.get?_mergeMembers (m : Fields Value) (hlater : Fields.Sorted later) (name : String) :
    Fields.get? (mergeMembers m later) name =
      ((later.get? name).map (onto (m.get? name))).or (m.get? name) := by
  induction later generalizing m with
  | nil =>
    rw [mergeMembers_nil]
    rfl
  | cons p rest ih =>
    obtain ⟨n, v⟩ := p
    have hcons : mergeMembers m ((n, v) :: rest) =
        mergeMembers (m.insert n (onto (m.get? n) v)) rest := by
      rw [mergeMembers]
      rfl
    rw [hcons, ih _ hlater.tail, Fields.get?_insert]
    by_cases hn : name = n
    · subst hn
      -- no later member has this name
      simp [hlater.get?_tail, Fields.get?]
    · simp [hn, Ne.symm hn, Fields.get?]

theorem Value.onto_of_scalar? {v : Value} {x : Scalar} (h : v.scalar? = some x)
    (earlier : Option Value) : onto earlier v = v := by
  cases v with
  | scalar source x' =>
    cases earlier with
    | none => rfl
    | some e =>
      rw [onto, merge]
      exact nofun
  | list source items => contradiction
  | table source members => contradiction

theorem Value.onto_scalar {e : Value} {x : Scalar} (h : e.scalar? = some x) (v : Value) :
    onto (some e) v = v := by
  cases e with
  | scalar source x' =>
    cases v with
    | scalar source' y =>
      rw [onto, merge]
      exact nofun
    | list source' items =>
      rw [onto, merge]
      exact nofun
    | table source' members =>
      rw [onto, merge]
      exact nofun
  | list source items => contradiction
  | table source members => contradiction

/-- The place of a later section in merged layers. -/
theorem Sectioned.get?_mergeMembers_of_some (hm : Sectioned m) (hlater : Sectioned later)
    (s : Setting α) {source : Source} {members : Fields Value}
    (h : later.get? s.sectionName = some (.table source members))
    (hsorted : Fields.Sorted members) :
    ∃ merged, Fields.get? (Value.mergeMembers m later) s.sectionName = some (.table source merged) ∧
      Fields.Sorted merged ∧ ∀ name, Fields.get? merged name =
        ((Fields.get? members name).map (Value.onto ((sectionOf m s.sectionName).get? name))).or
          ((sectionOf m s.sectionName).get? name) := by
  rw [Value.get?_mergeMembers m hlater.sorted, h, Option.map_some, Option.some_or]
  rcases hm.section_cases s with hnone | ⟨source', earlier, hsome, hsorted'⟩
  · rw [hnone, sectionOf_of_none hnone]
    refine ⟨members, rfl, hsorted, fun name => ?_⟩
    show _ = ((Fields.get? members name).map (Value.onto none)).or none
    cases Fields.get? members name <;> rfl
  · rw [hsome, sectionOf_of_get? hsome, Value.onto, Value.merge]
    exact ⟨_, rfl, Value.sorted_mergeMembers hsorted' members,
      Value.get?_mergeMembers earlier hsorted⟩

/-- A setting of merged layers is the one of the later layer over the one of the earlier. -/
theorem Sectioned.at?_mergeMembers (hm : Sectioned m) (hlater : Sectioned later) (s : Setting α) :
    s.at? (Value.mergeMembers m later) =
      ((s.at? later).map (Value.onto (s.at? m))).or (s.at? m) := by
  rcases hlater.section_cases s with hnone | ⟨source, members, hsome, hmembers⟩
  · have hmerged := Value.get?_mergeMembers m hlater.sorted s.sectionName
    rw [hnone, Option.map_none, Option.none_or] at hmerged
    have hlayer : s.at? later = none := by
      unfold Setting.at?
      rw [sectionOf_of_none hnone]
      rfl
    rw [hlayer, Option.map_none, Option.none_or]
    unfold Setting.at? sectionOf
    rw [hmerged]
  · obtain ⟨merged, hmerged, -, hget⟩ := hm.get?_mergeMembers_of_some hlater s hsome hmembers
    have hlayer : s.at? later = Fields.get? members s.key := by
      unfold Setting.at?
      rw [sectionOf_of_get? hsome]
    have hkey : s.at? (Value.mergeMembers m later) = Fields.get? merged s.key := by
      unfold Setting.at?
      rw [sectionOf_of_get? hmerged]
    rw [hkey, hget, hlayer]
    rfl

/-- If the later value is a single one, nothing of the earlier is left. -/
theorem Sectioned.at?_mergeMembers_of_typed (hm : Sectioned m) (hlater : Sectioned later)
    {s : Setting α} (h : s.Typed later) :
    s.at? (Value.mergeMembers m later) = (s.at? later).or (s.at? m) := by
  rw [hm.at?_mergeMembers hlater]
  cases hv : s.at? later with
  | none => rfl
  | some v =>
    obtain ⟨a, ha⟩ := Option.isSome_iff_exists.mp (h v hv)
    obtain ⟨x, hx, -⟩ := Option.bind_eq_some_iff.mp ha
    rw [Option.map_some, Value.onto_of_scalar? hx, Option.some_or]

theorem Sectioned.merge (hm : Sectioned m) (hlater : Sectioned later) :
    Sectioned (Value.mergeMembers m later) where
  sorted := Value.sorted_mergeMembers hm.sorted later
  table s v h := by
    rcases hlater.section_cases s with hnone | ⟨source, members, hsome, hmembers⟩
    · rw [Value.get?_mergeMembers m hlater.sorted, hnone, Option.map_none, Option.none_or] at h
      exact hm.table s h
    · obtain ⟨merged, hmerged, hsorted, -⟩ := hm.get?_mergeMembers_of_some hlater s hsome hmembers
      exact ⟨source, merged, Option.some.inj (h.symm.trans hmerged), hsorted⟩

theorem Setting.Typed.merge {s : Setting α} (h : s.Typed m) (hm : Sectioned m)
    (hlater : Sectioned later) (h' : s.Typed later) : s.Typed (Value.mergeMembers m later) := by
  intro v hv
  rw [hm.at?_mergeMembers_of_typed hlater h'] at hv
  rcases Option.or_eq_some_iff.mp hv with hv | ⟨-, hv⟩
  · exact h' v hv
  · exact h v hv

theorem Suits.merge (hm : Suits m) (hlater : Suits later) :
    Suits (Value.mergeMembers m later) where
  sorted := (hm.sectioned.merge hlater.sectioned).sorted
  table := (hm.sectioned.merge hlater.sectioned).table
  typed s v := (hm.typedAt s).merge hm.sectioned hlater.sectioned (hlater.typedAt s) v

theorem Suits.setBy?_mergeMembers (hm : Suits m) (hlater : Suits later) (s : Setting α) :
    s.setBy? (Value.mergeMembers m later) = (s.setBy? later).or (s.setBy? m) := by
  unfold Setting.setBy?
  rw [hm.sectioned.at?_mergeMembers_of_typed hlater.sectioned (hlater.typedAt s)]
  cases hv : s.at? later with
  | none => rfl
  | some v =>
    obtain ⟨a, ha⟩ := Option.isSome_iff_exists.mp (hlater.typed s hv)
    rw [Option.some_or, Option.bind_some, ha]
    rfl

/-- Merged layers are a layer again, and of those that set a setting the last one counts. -/
theorem suits_mergeLayers {layers : List (Fields Value)} (h : ∀ l ∈ layers, Suits l) :
    Suits (mergeLayers layers) ∧ ∀ {α : Type} (s : Setting α),
      s.setBy? (mergeLayers layers) = layers.reverse.findSome? s.setBy? := by
  have hfrom : ∀ m, Suits m → Suits (layers.foldl Value.mergeMembers m) ∧
      ∀ {α : Type} (s : Setting α), s.setBy? (layers.foldl Value.mergeMembers m) =
        (layers.reverse.findSome? s.setBy?).or (s.setBy? m) := by
    induction layers with
    | nil => exact fun m hm => ⟨hm, fun _ => rfl⟩
    | cons l rest ih =>
      intro m hm
      obtain ⟨hl, hrest⟩ := List.forall_mem_cons.mp h
      obtain ⟨hsuits, hset⟩ := ih hrest _ (hm.merge hl)
      refine ⟨hsuits, fun s => ?_⟩
      rw [List.foldl_cons, hset, hm.setBy?_mergeMembers hl, List.reverse_cons,
        List.findSome?_append, List.findSome?_singleton, Option.or_assoc]
  obtain ⟨hsuits, hset⟩ := hfrom [] suits_nil
  exact ⟨hsuits, fun s => (hset s).trans (Option.or_none ..)⟩

end Layers

/-! ## Decoding -/

namespace Setting

variable {α : Type}

/-- The decoder of a setting. -/
def read : Setting α → Reading α
  | .apiUrl | .tokenEnv => .string
  | .token => fun path v => (Reading.string path v).map some
  | .timeoutSeconds => .unsigned
  | .format => fun path v => (formatReading path v).map some
  | .color | .auditEnabled => .bool
  | .auditPath | .logFile => fun path v => (Reading.path path v).map some

theorem read_of_ofValue? {s : Setting α} {v : Value} {a : α} (h : s.ofValue? v = some a)
    (path : List String) : s.read path v = .ok a := by
  obtain ⟨x, hx, ha⟩ := Option.bind_eq_some_iff.mp h
  cases v with
  | list source items => contradiction
  | table source members => contradiction
  | scalar source x' =>
    obtain rfl := Option.some.inj hx
    cases s with
    | apiUrl | tokenEnv | token | auditPath | logFile =>
      cases x' with
      | str text =>
        obtain rfl := Option.some.inj ha
        rfl
      | bool _ | int _ _ | real _ => contradiction
    | color | auditEnabled =>
      cases x' with
      | bool b =>
        obtain rfl := Option.some.inj ha
        rfl
      | str _ | int _ _ | real _ => contradiction
    | timeoutSeconds =>
      cases x' with
      | int n signed =>
        obtain ⟨hn, ha⟩ := Option.ite_none_right_eq_some.mp ha
        obtain rfl := Option.some.inj ha
        show (if 0 ≤ n then _ else _) = _
        rw [if_pos hn]
      | str _ | bool _ | real _ => contradiction
    | format =>
      cases x' with
      | str name =>
        obtain ⟨f, hf, rfl⟩ := Option.map_eq_some_iff.mp ha
        have hname : (OutputFormat.all.map fun f => (f.name, f)).find? (fun p => p.1 == name) =
            some (f.name, f) := by
          rw [List.find?_map]
          exact Option.map_eq_some_iff.mpr ⟨f, hf, rfl⟩
        show (formatReading path (.scalar source (.str name))).map some = _
        unfold formatReading Reading.variant
        simp only [hname]
        rfl
      | bool _ | int _ _ | real _ => contradiction

/-- What a layer sets a setting to, or the default. -/
def valueIn (s : Setting α) (m : Fields Value) : α := (s.setBy? m).getD (s.of {})

end Setting

/-- The settings that a layer sets, and defaults for all others. -/
def settingsOf (m : Fields Value) : Settings where
  provider :=
    { apiUrl := Setting.apiUrl.valueIn m
      tokenEnv := Setting.tokenEnv.valueIn m
      token := Setting.token.valueIn m
      timeoutSeconds := Setting.timeoutSeconds.valueIn m }
  output := { format := Setting.format.valueIn m, color := Setting.color.valueIn m }
  audit := { enabled := Setting.auditEnabled.valueIn m, path := Setting.auditPath.valueIn m }
  logging := { file := Setting.logFile.valueIn m }

theorem of_settingsOf {α : Type} (s : Setting α) (m : Fields Value) :
    s.of (settingsOf m) = s.valueIn m := by
  cases s <;> rfl

section Decoding

variable {m : Fields Value}

theorem Setting.Typed.get_key {α : Type} {s : Setting α} (h : s.Typed m) (path : List String) :
    Reading.get (sectionOf m s.sectionName) path s.key s.read (s.of {}) = .ok (s.valueIn m) := by
  have hplace : (sectionOf m s.sectionName).get? s.key = s.at? m := rfl
  unfold Reading.get Setting.valueIn Setting.setBy?
  rw [hplace]
  cases hv : s.at? m with
  | none => rfl
  | some v =>
    obtain ⟨a, ha⟩ := Option.isSome_iff_exists.mp (h v hv)
    rw [Option.bind_some, ha]
    exact Setting.read_of_ofValue? ha _

/-- A missing section reads as an empty one does. -/
theorem Sectioned.get_section (h : Sectioned m) {α β : Type} (s : Setting α) {r : Reading β}
    {b unset : β}
    (hr : ∀ path source, r path (.table source (sectionOf m s.sectionName)) = .ok b)
    (hempty : ∀ path source, r path (.table source []) = .ok unset) :
    Reading.get m [] s.sectionName r unset = .ok b := by
  unfold Reading.get
  rcases h.section_cases s with hnone | ⟨source, members, hsome, -⟩
  · have hread := hr [] .defaults
    rw [sectionOf_of_none hnone, hempty] at hread
    rw [hnone, hread]
  · rw [hsome, ← sectionOf_of_get? hsome]
    exact hr _ source

theorem Suits.read_provider (h : Suits m) (path : List String) (source : Source) :
    Provider.read path (.table source (sectionOf m "provider")) = .ok (settingsOf m).provider := by
  refine bind_eq_ok.mpr ⟨_, rfl, ?_⟩
  refine bind_eq_ok.mpr ⟨_, (h.typedAt .apiUrl).get_key path, ?_⟩
  refine bind_eq_ok.mpr ⟨_, (h.typedAt .timeoutSeconds).get_key path, ?_⟩
  refine bind_eq_ok.mpr ⟨_, (h.typedAt .token).get_key path, ?_⟩
  exact bind_eq_ok.mpr ⟨_, (h.typedAt .tokenEnv).get_key path, rfl⟩

theorem read_output (hcolor : Setting.color.Typed m) (hformat : Setting.format.Typed m)
    (path : List String) (source : Source) :
    Output.read path (.table source (sectionOf m "output")) = .ok (settingsOf m).output := by
  refine bind_eq_ok.mpr ⟨_, rfl, ?_⟩
  refine bind_eq_ok.mpr ⟨_, hcolor.get_key path, ?_⟩
  exact bind_eq_ok.mpr ⟨_, hformat.get_key path, rfl⟩

theorem read_audit (henabled : Setting.auditEnabled.Typed m) (hpath : Setting.auditPath.Typed m)
    (path : List String) (source : Source) :
    Audit.read path (.table source (sectionOf m "audit")) = .ok (settingsOf m).audit := by
  refine bind_eq_ok.mpr ⟨_, rfl, ?_⟩
  refine bind_eq_ok.mpr ⟨_, henabled.get_key path, ?_⟩
  exact bind_eq_ok.mpr ⟨_, hpath.get_key path, rfl⟩

theorem read_logging (hfile : Setting.logFile.Typed m) (path : List String) (source : Source) :
    Logging.read path (.table source (sectionOf m "logging")) = .ok (settingsOf m).logging := by
  refine bind_eq_ok.mpr ⟨_, rfl, ?_⟩
  exact bind_eq_ok.mpr ⟨_, hfile.get_key path, rfl⟩

/-- The settings of a layer are what it sets, and defaults. -/
theorem Suits.ofMembers (h : Suits m) : ofMembers m = .ok (settingsOf m) := by
  have haudit := read_audit (h.typedAt .auditEnabled) (h.typedAt .auditPath)
  have hlogging := read_logging (h.typedAt .logFile)
  have houtput := read_output (h.typedAt .color) (h.typedAt .format)
  refine bind_eq_ok.mpr ⟨_, h.sectioned.get_section .auditPath haudit fun _ _ => rfl, ?_⟩
  refine bind_eq_ok.mpr ⟨_, h.sectioned.get_section .logFile hlogging fun _ _ => rfl, ?_⟩
  refine bind_eq_ok.mpr ⟨_, h.sectioned.get_section .color houtput fun _ _ => rfl, ?_⟩
  exact bind_eq_ok.mpr ⟨_, h.sectioned.get_section .apiUrl h.read_provider fun _ _ => rfl, rfl⟩

end Decoding

end CloudGate.Settings
