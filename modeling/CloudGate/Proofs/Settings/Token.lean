import CloudGate.Proofs.Settings.Item
import CloudGate.Proofs.Settings.Load

/-!
A token that is given in its variable.

* `ofMembers_of_token_mismatch`: of all settings only the token is wrong, so it is reported.
* `load_of_token_text`, `load_of_token_mismatch`: what is loaded with a token, by the value that its
  text has.
* `token_arrives`: a token arrives as it was given exactly if its text is plain.
-/

namespace CloudGate.Settings

variable {d : Disk} {env : Environment} {explicit : Option String} {text : String}

/-! ## A wrong token -/

theorem refuse_string {v : Value} (h : ∀ source s, v ≠ .scalar source (.str s))
    (path : List String) :
    Reading.string path v = .error ⟨.invalidType v.describe "a string", path, v.source⟩ := by
  cases v with
  | list source items => rfl
  | table source members => rfl
  | scalar source x =>
    cases x with
    | str s => exact absurd rfl (h source s)
    | bool b => rfl
    | int n signed => rfl
    | real x => rfl

/-- All settings but the token are of the right types. -/
def TypedButToken (m : Fields Value) : Prop :=
  ∀ {α : Type} (s : Setting α), s.place ≠ Setting.token.place → s.Typed m

theorem read_provider_of_token {m : Fields Value} (htyped : TypedButToken m) {v : Value}
    (hv : Setting.token.at? m = some v) (hne : ∀ source s, v ≠ .scalar source (.str s))
    (path : List String) (source : Source) :
    Provider.read path (.table source (sectionOf m "provider")) =
      .error ⟨.invalidType v.describe "a string", path ++ ["token"], v.source⟩ := by
  have hurl := (htyped .apiUrl (by decide)).get_key path
  have htimeout := (htyped .timeoutSeconds (by decide)).get_key path
  have htoken : Reading.get (sectionOf m "provider") path "token" Setting.token.read none =
      .error ⟨.invalidType v.describe "a string", path ++ ["token"], v.source⟩ := by
    have hplace : (sectionOf m "provider").get? "token" = some v := hv
    unfold Reading.get
    rw [hplace]
    show (Reading.string (path ++ ["token"]) v).map some = _
    rw [refuse_string hne]
    rfl
  refine bind_eq_error.mpr (.inr ⟨_, rfl, ?_⟩)
  refine bind_eq_error.mpr (.inr ⟨_, hurl, ?_⟩)
  refine bind_eq_error.mpr (.inr ⟨_, htimeout, ?_⟩)
  exact bind_eq_error.mpr (.inl htoken)

/-- A token that is no text is reported if nothing else is wrong. -/
theorem ofMembers_of_token_mismatch {m : Fields Value} (h : Sectioned m) (htyped : TypedButToken m)
    {v : Value} (hv : Setting.token.at? m = some v)
    (hne : ∀ source s, v ≠ .scalar source (.str s)) :
    ofMembers m =
      .error ⟨.invalidType v.describe "a string", Setting.token.place, v.source⟩ := by
  have haudit := read_audit (htyped .auditEnabled (by decide)) (htyped .auditPath (by decide))
  have hlogging := read_logging (htyped .logFile (by decide))
  have houtput := read_output (htyped .color (by decide)) (htyped .format (by decide))
  have hprovider : Reading.get m [] "provider" Provider.read {} =
      .error ⟨.invalidType v.describe "a string", Setting.token.place, v.source⟩ := by
    obtain ⟨source, hsection⟩ := h.get?_of_at? hv
    have hsection : m.get? "provider" = some (.table source (sectionOf m "provider")) := hsection
    unfold Reading.get
    rw [hsection]
    exact read_provider_of_token htyped hv hne ["provider"] source
  refine bind_eq_error.mpr (.inr ⟨_, h.get_section .auditPath haudit fun _ _ => rfl, ?_⟩)
  refine bind_eq_error.mpr (.inr ⟨_, h.get_section .logFile hlogging fun _ _ => rfl, ?_⟩)
  refine bind_eq_error.mpr (.inr ⟨_, h.get_section .color houtput fun _ _ => rfl, ?_⟩)
  exact bind_eq_error.mpr (.inl hprovider)

/-! ## The variable of the token -/

/-- An environment in which the variable of the token is set. -/
def withToken (env : Environment) (text : String) : Environment :=
  env.insert Setting.token.variableName text

theorem get?_withToken (env : Environment) (text name : String) :
    (withToken env text).get? name =
      if name = Setting.token.variableName then some text else env.get? name :=
  Fields.get?_insert ..

theorem globalPath?_withToken (env : Environment) (text : String) :
    globalPath? (withToken env text) = globalPath? env := by
  have hfolder : (withToken env text).get? "XDG_CONFIG_HOME" = env.get? "XDG_CONFIG_HOME" := by
    rw [get?_withToken, if_neg (by decide)]
  have hhome : (withToken env text).get? "HOME" = env.get? "HOME" := by
    rw [get?_withToken, if_neg (by decide)]
  unfold globalPath?
  rw [hfolder, hhome]

theorem filePaths_withToken (d : Disk) (env : Environment) (explicit : Option String)
    (text : String) : filePaths d (withToken env text) explicit = filePaths d env explicit := by
  unfold filePaths
  rw [globalPath?_withToken]

theorem Fitting.named_withToken (h : Fitting d env explicit) (text : String) :
    ∀ p ∈ withToken env text, Variable.Named p.1 := by
  intro p hp
  rcases Fields.mem_insert hp with rfl | hp
  · exact Variable.named_variableName .token
  · exact (h.fits p hp).named

/-- The value that stands in the place of a setting among the variables. -/
theorem Fitting.at?_withToken (h : Fitting d env explicit) (text : String) {α : Type}
    (s : Setting α) : s.at? (Variable.layer (withToken env text)) =
      (if s.variableName = Setting.token.variableName then some text
        else env.get? s.variableName).map Variable.valueOf := by
  have hsorted : Fields.Sorted (withToken env text) := h.sorted.insert _ _
  rw [Variable.at?_layer hsorted (h.named_withToken text), get?_withToken]

theorem Fitting.set_token (h : Fitting d env explicit)
    (htext : (Setting.token.ofValue? (Variable.valueOf text)).isSome) :
    Fitting d (withToken env text) explicit where
  folder := h.folder
  sorted := h.sorted.insert _ _
  fits p hp := by
    rcases Fields.mem_insert hp with rfl | hp
    · exact fun _ _ => .inr ⟨_, .token, rfl, htext⟩
    · exact h.fits p hp
  asked := h.asked
  project := h.project
  global path hpath := by
    rw [globalPath?_withToken] at hpath
    exact h.global path hpath

/-! ## Loading -/

/-- A token whose text is read as a text is loaded as what is read. -/
theorem load_of_token_text (h : Fitting d env explicit) {source : Source} {s : String}
    (hvalue : Variable.valueOf text = .scalar source (.str s)) :
    ∃ settings, load d (withToken env text) explicit = .ok settings ∧
      settings.provider.token = some s := by
  have htext : Setting.token.ofValue? (Variable.valueOf text) = some (some s) := by
    rw [hvalue]
    rfl
  obtain ⟨settings, hload, hset⟩ := (h.set_token (Option.isSome_of_eq_some htext)).load_eq_ok
  refine ⟨settings, hload, (hset .token).trans ?_⟩
  have hvariable : Setting.token.ofVariable? (withToken env text) = some (some s) := by
    unfold Setting.ofVariable?
    rw [get?_withToken, if_pos rfl]
    exact htext
  unfold Setting.sources
  rw [hvariable]
  rfl

theorem Fitting.typed_layer (h : Fitting d env explicit) (text : String) :
    TypedButToken (Variable.layer (withToken env text)) := by
  intro α s hplace v hv
  rw [h.at?_withToken text, if_neg (Variable.variableName_ne hplace)] at hv
  obtain ⟨given, hgiven, rfl⟩ := Option.map_eq_some_iff.mp hv
  exact (h.fits _ (Fields.mem_of_get? hgiven)).typed

/-- Any other value of the token keeps the settings from being loaded. -/
theorem load_of_token_mismatch (h : Fitting d env explicit)
    (hne : ∀ source s, Variable.valueOf text ≠ .scalar source (.str s)) :
    load d (withToken env text) explicit = .error (.mismatch
      ⟨.invalidType (Variable.valueOf text).describe "a string", Setting.token.place,
        .environment⟩) := by
  obtain ⟨layers, hlayers, hsuits, -⟩ := layers_of_files h.folder h.files
  obtain ⟨hbase, -⟩ := suits_mergeLayers (List.forall_mem_cons.mpr ⟨suits_defaultLayer, hsuits⟩)
  have hlayer : Sectioned (Variable.layer (withToken env text)) :=
    Variable.sectioned_layer (h.named_withToken text)
  have hmerged : mergeLayers (defaultLayer :: layers ++ [Variable.layer (withToken env text)]) =
      Value.mergeMembers (mergeLayers (defaultLayer :: layers))
        (Variable.layer (withToken env text)) :=
    List.foldl_append
  -- of the layers below the variables only their types count
  generalize mergeLayers (defaultLayer :: layers) = base at hbase hmerged
  have htyped : TypedButToken (Value.mergeMembers base (Variable.layer (withToken env text))) :=
    fun s hplace => (hbase.typedAt s).merge hbase.sectioned hlayer (h.typed_layer text s hplace)
  have htoken : Setting.token.at?
      (Value.mergeMembers base (Variable.layer (withToken env text))) =
        some (Variable.valueOf text) := by
    rw [hbase.sectioned.at?_mergeMembers hlayer, h.at?_withToken text, if_pos rfl,
      Option.map_some, Option.map_some, Option.some_or]
    cases hearlier : Setting.token.at? base with
    | none => rfl
    | some e =>
      -- what the files set the token to is no table, so nothing is merged
      obtain ⟨a, ha⟩ := Option.isSome_iff_exists.mp (hbase.typedAt .token e hearlier)
      obtain ⟨x, hx, -⟩ := Option.bind_eq_some_iff.mp ha
      rw [Value.onto_scalar hx]
  have hlayers' : (filePaths d (withToken env text) explicit).mapM (fileLayer d) = .ok layers := by
    rw [filePaths_withToken]
    exact hlayers
  rw [load_of_layers h.asked_contained hlayers', hmerged,
    ofMembers_of_token_mismatch (hbase.sectioned.merge hlayer) htyped htoken hne,
    Variable.source_valueOf]
  rfl

/-! ## Tokens -/

/-- A token that is loaded is used where its other place holds none. -/
theorem Provider.resolveToken_of_token {p : Provider} {t : String} (h : p.token = some t)
    (hblank : Text.isBlankText t = false)
    (hother : ∀ given, env.get? p.tokenEnv = some given → Text.isBlankText given = true) :
    p.resolveToken env = some t := by
  have hgiven : ((if p.tokenEnv.isEmpty then none else env.get? p.tokenEnv).filter
      fun given => !Text.isBlankText given) = none := by
    refine Option.filter_eq_none_iff.mpr fun given hgiven => ?_
    obtain ⟨-, hget⟩ := Option.ite_none_left_eq_some.mp hgiven
    rw [hother given hget]
    exact Bool.false_ne_true
  unfold Provider.resolveToken
  simp only [hgiven, h, Option.none_or]
  rw [Option.filter_some, hblank]
  rfl

/-- A token arrives as it was given in its variable exactly if its text is plain. Otherwise another
text arrives, or the token is refused and no settings are loaded. -/
theorem token_arrives (h : Fitting d env explicit) (t : String) :
    (Variable.IsPlain t.toList → ∃ settings,
      load d (withToken env t) explicit = .ok settings ∧ settings.provider.token = some t ∧
        (Text.isBlankText t = false →
          (∀ given, (withToken env t).get? settings.provider.tokenEnv = some given →
            Text.isBlankText given = true) →
          settings.provider.resolveToken (withToken env t) = some t)) ∧
    (¬ Variable.IsPlain t.toList →
      (∃ settings s, load d (withToken env t) explicit = .ok settings ∧
        settings.provider.token = some s ∧ s ≠ t) ∨
      load d (withToken env t) explicit = .error (.mismatch
        ⟨.invalidType (Variable.valueOf t).describe "a string", ["provider", "token"],
          .environment⟩)) := by
  constructor
  · intro hplain
    obtain ⟨settings, hload, htoken⟩ :=
      load_of_token_text h (Variable.valueOf_eq_self_iff.mpr hplain)
    exact ⟨settings, hload, htoken, Provider.resolveToken_of_token htoken⟩
  · intro hplain
    by_cases hvalue : ∃ source s, Variable.valueOf t = .scalar source (.str s)
    · obtain ⟨source, s, hvalue⟩ := hvalue
      obtain ⟨settings, hload, htoken⟩ := load_of_token_text h hvalue
      refine .inl ⟨settings, s, hload, htoken, ?_⟩
      rintro rfl
      have hsource := Variable.source_valueOf s
      rw [hvalue] at hsource
      obtain rfl : source = .environment := hsource
      exact hplain (Variable.valueOf_eq_self_iff.mp hvalue)
    · exact .inr (load_of_token_mismatch h fun source s heq => hvalue ⟨source, s, heq⟩)

theorem token_arrives_layered :
    (∃ settings, load layeredDisk (withToken layeredEnvironment "1e5") (some "extra.toml") =
        .ok settings ∧ settings.provider.token = some "1e5" ∧
      settings.provider.resolveToken (withToken layeredEnvironment "1e5") = some "1e5") ∧
    ∃ settings s, load layeredDisk (withToken layeredEnvironment "\"t\"") (some "extra.toml") =
        .ok settings ∧ settings.provider.token = some s ∧ s ≠ "\"t\"" := by
  have hplain : Variable.IsPlain "1e5".toList := Variable.valueOf_eq_self_iff.mp (by rfl)
  have hquoted : ¬ Variable.IsPlain "\"t\"".toList := by
    intro h
    have hvalue := Variable.valueOf_eq_self_iff.mpr h
    have hread : Variable.valueOf "\"t\"" = .scalar .environment (.str "t") := by rfl
    rw [hread] at hvalue
    exact absurd (Scalar.str.inj (Value.scalar.inj hvalue).2) (by decide)
  obtain ⟨settings, hload, htoken, hresolve⟩ := (token_arrives fitting_layered "1e5").1 hplain
  refine ⟨⟨settings, hload, htoken, hresolve (by decide +kernel) fun given hgiven => ?_⟩, ?_⟩
  · have hname : (load layeredDisk (withToken layeredEnvironment "1e5") (some "extra.toml")).map
        (fun settings => settings.provider.tokenEnv) = .ok "B" := by decide +kernel
    rw [hload] at hname
    have hname : settings.provider.tokenEnv = "B" := Except.ok.inj hname
    have hnone : (withToken layeredEnvironment "1e5").get? "B" = none := by decide +kernel
    rw [hname, hnone] at hgiven
    contradiction
  · rcases (token_arrives fitting_layered "\"t\"").2 hquoted with hother | hrefused
    · exact hother
    · have hok : (load layeredDisk (withToken layeredEnvironment "\"t\"")
          (some "extra.toml")).toBool = true := by decide +kernel
      rw [hrefused] at hok
      contradiction

/-- Where there is nothing else that holds settings. -/
theorem fitting_empty : Fitting {} [] none where
  folder := List.not_mem_nil
  sorted := List.Pairwise.nil
  fits := List.forall_mem_nil _
  asked _ := nofun
  project hcontains := absurd hcontains (by decide)
  global _ := nofun

/-- A token of digits only is taken for a number and refused. -/
theorem token_of_digits_refused :
    Fitting {} [] none ∧ Text.isBlankText "1234567890" = false ∧
      load {} (withToken [] "1234567890") none =
        .error (.mismatch ⟨.invalidType "unsigned int `1234567890`" "a string",
          ["provider", "token"], .environment⟩) :=
  ⟨fitting_empty, by decide +kernel, by decide +kernel⟩

end CloudGate.Settings
