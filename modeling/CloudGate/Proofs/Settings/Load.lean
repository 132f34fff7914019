import CloudGate.Proofs.Disk
import CloudGate.Proofs.Settings.Source

/-!
Loading settings: each setting has the value of the strongest source that sets it. Which other
settings the sources set does not matter.

* `Setting.setBy?_defaultLayer`: the built-in defaults are a layer that sets nothing else.
* `findFile?_of_read?`: a file is looked for where its path leads before it is anywhere else.
* `layers_of_files`: the files make layers, from the weakest on.
* `findSome?_filePaths`: the files that are read, and their order.
* `load_precedence`: what is loaded.
-/

namespace CloudGate.Settings

variable {d : Disk} {env : Environment} {explicit : Option String}

/-! ## Finding files -/

theorem foldl_step_of_canonical {folder : List String} (h : ".." ∉ folder) (start : List String) :
    folder.foldl Path.step start = start ++ folder := by
  induction folder generalizing start with
  | nil => exact (List.append_nil start).symm
  | cons name rest ih =>
    obtain ⟨hname, hrest⟩ := not_or.mp (mt List.mem_cons.mpr h)
    have hstep : Path.step start name = start ++ [name] := if_neg (Ne.symm hname)
    rw [List.foldl_cons, ih hrest, hstep, List.append_assoc, List.singleton_append]

/-- The first place where a file is looked for is the one that its path leads to. -/
theorem candidates_eq_cons (hfolder : ".." ∉ d.workingFolder) (path : String) :
    ∃ steps more, candidates d path = steps :: more ∧ steps.foldl Path.step [] = d.locate path := by
  unfold candidates Disk.locate
  by_cases habsolute : Path.isAbsolute path
  · rw [if_pos habsolute, if_pos habsolute]
    exact ⟨_, _, rfl, rfl⟩
  · rw [if_neg habsolute, if_neg habsolute, List.range_succ_eq_map, List.map_cons, Nat.sub_zero,
      List.take_length]
    refine ⟨_, _, rfl, ?_⟩
    rw [List.foldl_append, foldl_step_of_canonical hfolder, List.nil_append]

theorem findFile?_of_read? (hfolder : ".." ∉ d.workingFolder) {path text : String}
    (h : d.read? path = some text) : ∃ steps, findFile? d path = some (steps, text) := by
  obtain ⟨-, hfile⟩ := Disk.read?_eq_some.mp h
  obtain ⟨steps, more, hcandidates, hplace⟩ := candidates_eq_cons hfolder path
  refine ⟨steps, ?_⟩
  unfold findFile?
  rw [hcandidates, List.findSome?_cons, hplace, hfile]

theorem contains_of_read? {path text : String} (h : d.read? path = some text) :
    d.contains path = true := by
  obtain ⟨hnamed, hfile⟩ := Disk.read?_eq_some.mp h
  unfold Disk.contains
  rw [hfile, bne_iff_ne.mpr hnamed]
  rfl

/-! ## Layers of files -/

/-- A path leads to a document in which all settings are of the right types. -/
def HasDocument (d : Disk) (path : String) : Prop :=
  ∃ text, d.read? path = some text ∧ FitsText text

/-- What the file at a path sets a setting to. -/
def Setting.ofFile? {α : Type} (s : Setting α) (d : Disk) (path : String) : Option α :=
  (d.read? path).bind s.ofText?

theorem fileLayer_of_hasDocument (hfolder : ".." ∉ d.workingFolder) {path : String}
    (h : HasDocument d path) : ∃ layer, fileLayer d path = .ok layer ∧ Suits layer ∧
      ∀ {α : Type} (s : Setting α), s.setBy? layer = s.ofFile? d path := by
  obtain ⟨text, hread, hfits⟩ := h
  obtain ⟨steps, hfind⟩ := findFile?_of_read? hfolder hread
  obtain ⟨members, hparse, hmembers⟩ := hfits
  have hsuits := suits_ofTomlMembers (Toml.ordered_of_parse? hparse) hmembers
  refine ⟨Value.ofTomlMembers (.file (shownPlace d steps)) members, ?_, hsuits _, fun s => ?_⟩
  · unfold fileLayer
    simp only [hfind, hparse]
  · rw [setBy?_ofTomlMembers (hmembers s)]
    unfold Setting.ofFile?
    rw [hread, Option.bind_some, Setting.ofText?, hparse]
    rfl

/-- The files make layers. Of those that set a setting the last one counts. -/
theorem layers_of_files (hfolder : ".." ∉ d.workingFolder) {paths : List String}
    (h : ∀ path ∈ paths, HasDocument d path) :
    ∃ layers, paths.mapM (fileLayer d) = .ok layers ∧ (∀ l ∈ layers, Suits l) ∧
      ∀ {α : Type} (s : Setting α),
        layers.reverse.findSome? s.setBy? = paths.reverse.findSome? (s.ofFile? d) := by
  induction paths with
  | nil => exact ⟨[], rfl, List.forall_mem_nil _, fun _ => rfl⟩
  | cons path rest ih =>
    obtain ⟨hpath, hrest⟩ := List.forall_mem_cons.mp h
    obtain ⟨layer, hlayer, hsuits, hset⟩ := fileLayer_of_hasDocument hfolder hpath
    obtain ⟨layers, hlayers, hall, hfound⟩ := ih hrest
    refine ⟨layer :: layers, ?_, List.forall_mem_cons.mpr ⟨hsuits, hall⟩, fun s => ?_⟩
    · rw [List.mapM_cons, hlayer, hlayers]
      rfl
    · rw [List.reverse_cons, List.reverse_cons, List.findSome?_append, List.findSome?_append,
        List.findSome?_singleton, List.findSome?_singleton, hfound, hset]

/-! ## All sources -/

/-- The name of the file of a project. The second name counts only if there is nothing of the
first. -/
def projectName (d : Disk) : String :=
  if d.contains "cloudops.toml" then "cloudops.toml" else ".cloudops.toml"

/-- What the sources set a setting to, from the strongest source on: the environment, the file that
was asked for, the file of the project, the global file. -/
def Setting.sources {α : Type} (s : Setting α) (d : Disk) (env : Environment)
    (explicit : Option String) : List (Option α) :=
  [s.ofVariable? env, explicit.bind (s.ofFile? d), s.ofFile? d (projectName d),
    (globalPath? env).bind (s.ofFile? d)]

/-- Sources that set known settings to values of the right types. What else they hold is free. A
variable has the type that its text is read as: digits alone are an integer, no text. -/
structure Fitting (d : Disk) (env : Environment) (explicit : Option String) : Prop where
  /-- The working folder is a place, not a way to one. -/
  folder : ".." ∉ d.workingFolder
  sorted : Fields.Sorted env
  fits : ∀ p ∈ env, Variable.Fits p.1 p.2
  asked : ∀ path, explicit = some path → HasDocument d path
  project : d.contains (projectName d) = true → HasDocument d (projectName d)
  global : ∀ path, globalPath? env = some path → d.contains path = true → HasDocument d path

theorem Setting.ofFile?_of_not_contains {α : Type} (s : Setting α) {path : String}
    (h : d.contains path = false) : s.ofFile? d path = none := by
  unfold ofFile?
  cases hread : d.read? path with
  | none => rfl
  | some text =>
    rw [contains_of_read? hread] at h
    contradiction

theorem findSome?_toList {α β : Type} (o : Option α) (f : α → Option β) :
    o.toList.reverse.findSome? f = o.bind f := by
  cases o with
  | none => rfl
  | some a => exact List.findSome?_singleton

theorem projectPath?_eq_filter (d : Disk) :
    projectPath? d = (some (projectName d)).filter d.contains := by
  unfold projectPath? projectNames projectName
  cases hfirst : d.contains "cloudops.toml" with
  | true => simp [Option.filter, hfirst]
  | false => simp [Option.filter, hfirst]

/-- A file that does not exist sets nothing, so it need not be left out. -/
theorem Setting.bind_filter_contains {α : Type} (s : Setting α) (d : Disk) (o : Option String) :
    (o.filter d.contains).bind (s.ofFile? d) = o.bind (s.ofFile? d) := by
  cases o with
  | none => rfl
  | some path =>
    cases hcontains : d.contains path with
    | true => rw [Option.filter, if_pos hcontains]
    | false =>
      rw [Option.filter, if_neg (Bool.eq_false_iff.mp hcontains), Option.bind_some,
        s.ofFile?_of_not_contains hcontains]
      rfl

/-- The files from the strongest on. -/
theorem findSome?_filePaths {α : Type} (s : Setting α) :
    (filePaths d env explicit).reverse.findSome? (s.ofFile? d) =
      (explicit.bind (s.ofFile? d)).or
        ((s.ofFile? d (projectName d)).or ((globalPath? env).bind (s.ofFile? d))) := by
  unfold filePaths
  rw [List.reverse_append, List.reverse_append, List.findSome?_append, List.findSome?_append,
    findSome?_toList, findSome?_toList, findSome?_toList, projectPath?_eq_filter,
    s.bind_filter_contains, s.bind_filter_contains]
  rfl

theorem Setting.findSome?_sources {α : Type} (s : Setting α) :
    (s.sources d env explicit).findSome? id = (s.ofVariable? env).or
      ((explicit.bind (s.ofFile? d)).or
        ((s.ofFile? d (projectName d)).or ((globalPath? env).bind (s.ofFile? d)))) := by
  have hcons : ∀ (o : Option α) (rest : List (Option α)),
      (o :: rest).findSome? id = o.or (rest.findSome? id) := by
    intro o rest
    cases o <;> rfl
  unfold sources
  rw [hcons, hcons, hcons, hcons, List.findSome?_nil, Option.or_none]

theorem load_of_not_contains {path : String} (h : d.contains path = false) :
    load d env (some path) = .error (.missing path) := by
  have hmissing : (some path).filter (fun path => !d.contains path) = some path := by
    simp [h]
  unfold load
  simp only [hmissing]
  rfl

theorem Fitting.files (h : Fitting d env explicit) :
    ∀ path ∈ filePaths d env explicit, HasDocument d path := by
  intro path hpath
  unfold filePaths at hpath
  rw [List.mem_append, List.mem_append, Option.mem_toList, Option.mem_toList, Option.mem_toList,
    projectPath?_eq_filter, Option.filter_eq_some_iff, Option.filter_eq_some_iff] at hpath
  rcases hpath with (⟨hpath, hcontains⟩ | ⟨hpath, hcontains⟩) | hpath
  · exact h.global path hpath hcontains
  · obtain rfl := Option.some.inj hpath
    exact h.project hcontains
  · exact h.asked path hpath

theorem Fitting.asked_contained (h : Fitting d env explicit) :
    explicit.filter (fun path => !d.contains path) = none := by
  refine Option.filter_eq_none_iff.mpr fun path hpath => ?_
  obtain ⟨text, hread, -⟩ := h.asked path hpath
  rw [contains_of_read? hread]
  exact Bool.false_ne_true

theorem load_of_layers {layers : List (Fields Value)}
    (hasked : explicit.filter (fun path => !d.contains path) = none)
    (hlayers : (filePaths d env explicit).mapM (fileLayer d) = .ok layers) :
    load d env explicit =
      (ofMembers (mergeLayers (defaultLayer :: layers ++ [Variable.layer env]))).mapError
        .mismatch := by
  unfold load
  simp only [hasked]
  rw [hlayers]
  rfl

/-- The built-in defaults are of the right types. -/
theorem suits_defaultLayer : Suits defaultLayer where
  sorted := Fields.sorted_of_names (by decide)
  table s v h := by
    cases s with
    | apiUrl | tokenEnv | token | timeoutSeconds | format | color | auditEnabled | auditPath
      | logFile =>
      obtain rfl := Option.some.inj h
      exact ⟨_, _, rfl, Fields.sorted_of_names (by decide)⟩
  typed s v h := by
    cases s with
    | apiUrl | tokenEnv | timeoutSeconds | color | auditEnabled =>
      obtain rfl := Option.some.inj h
      rfl
    | token | format | auditPath | logFile => contradiction

/-- What the built-in defaults leave out is decoded as the default all the same. -/
theorem Setting.setBy?_defaultLayer {α : Type} (s : Setting α) :
    s.setBy? defaultLayer = some (s.of {}) ∨ s.setBy? defaultLayer = none := by
  cases s with
  | apiUrl | tokenEnv | timeoutSeconds | color | auditEnabled => exact .inl rfl
  | token | format | auditPath | logFile => exact .inr rfl

theorem Fitting.load_eq_ok (h : Fitting d env explicit) :
    ∃ settings, load d env explicit = .ok settings ∧ ∀ {α : Type} (s : Setting α),
      s.of settings = ((s.sources d env explicit).findSome? id).getD (s.of {}) := by
  obtain ⟨layers, hlayers, hsuits, hset⟩ := layers_of_files h.folder h.files
  have hall : ∀ l ∈ defaultLayer :: layers ++ [Variable.layer env], Suits l := by
    intro l hl
    rcases List.mem_append.mp hl with hl | hl
    · rcases List.mem_cons.mp hl with rfl | hl
      · exact suits_defaultLayer
      · exact hsuits l hl
    · rw [List.mem_singleton.mp hl]
      exact Variable.suits_layer h.sorted h.fits
  obtain ⟨hmerged, hvalue⟩ := suits_mergeLayers hall
  refine ⟨settingsOf (mergeLayers (defaultLayer :: layers ++ [Variable.layer env])), ?_,
    fun s => ?_⟩
  · rw [load_of_layers h.asked_contained hlayers, hmerged.ofMembers]
    rfl
  · have hreverse : (defaultLayer :: layers ++ [Variable.layer env]).reverse =
        [Variable.layer env] ++ (layers.reverse ++ [defaultLayer]) := by
      simp
    have hsources : (defaultLayer :: layers ++ [Variable.layer env]).reverse.findSome? s.setBy? =
        ((s.sources d env explicit).findSome? id).or (s.setBy? defaultLayer) := by
      rw [hreverse, List.findSome?_append, List.findSome?_append, List.findSome?_singleton,
        List.findSome?_singleton, hset, Variable.setBy?_layer h.sorted h.fits,
        s.findSome?_sources, ← findSome?_filePaths, Option.or_assoc]
    rw [of_settingsOf, Setting.valueIn, hvalue, hsources]
    rcases s.setBy?_defaultLayer with hdefault | hdefault
    · rw [hdefault, Option.getD_or, Option.getD_some]
    · rw [hdefault, Option.or_none]

/-- A file that was asked for and is missing is reported whatever the other sources hold. Otherwise
each setting gets the value of the strongest source that sets it, and its default if none does: what
the sources hold for other settings, also of the same section, has no part in it. -/
theorem load_precedence (d : Disk) (env : Environment) (explicit : Option String) :
    (∀ path, explicit = some path → d.contains path = false →
      load d env explicit = .error (.missing path)) ∧
    (Fitting d env explicit → ∃ settings, load d env explicit = .ok settings ∧
      ∀ {α : Type} (s : Setting α),
        s.of settings = ((s.sources d env explicit).findSome? id).getD (s.of {})) := by
  refine ⟨fun path hpath hmissing => ?_, fun h => h.load_eq_ok⟩
  subst hpath
  exact load_of_not_contains hmissing

/-- Files of all kinds that set overlapping parts of the sections. The second file of the project is
no document at all. -/
def layeredDisk : Disk where
  workingFolder := ["work"]
  entries :=
    [(["home", "u", ".config", "cloudops", "config.toml"],
      .file "[provider]\ntoken_env = \"A\"\n[output]\ncolor = false\n"),
     (["work", "cloudops.toml"], .file "[provider]\ntoken_env = \"B\"\n"),
     (["work", ".cloudops.toml"], .file "["),
     (["work", "extra.toml"], .file "[provider]\ntimeout_seconds = 20\n")]

def layeredEnvironment : Environment :=
  [("CLOUDOPS_PROVIDER__TIMEOUT_SECONDS", "5"), ("HOME", "/home/u")]

theorem fitting_layered : Fitting layeredDisk layeredEnvironment (some "extra.toml") where
  folder := by decide
  sorted := Fields.sorted_of_names (by decide +kernel)
  fits := by
    intro p hp path hpath
    rcases List.mem_cons.mp hp with rfl | hp
    · exact .inr ⟨_, .timeoutSeconds, by decide +kernel, by decide +kernel⟩
    · obtain rfl := List.mem_singleton.mp hp
      have hnone : Variable.pathOf? "HOME" = none := by decide +kernel
      rw [hnone] at hpath
      contradiction
  asked path hpath := by
    obtain rfl := Option.some.inj hpath
    exact ⟨_, rfl, by decide +kernel⟩
  project _ := ⟨_, rfl, by decide +kernel⟩
  global path hpath _ := by
    have hglobal :
        globalPath? layeredEnvironment = some "/home/u/.config/cloudops/config.toml" := by
      decide +kernel
    obtain rfl := Option.some.inj (hglobal.symm.trans hpath)
    exact ⟨_, rfl, by decide +kernel⟩

theorem load_precedence_layered :
    load layeredDisk layeredEnvironment (some "none.toml") = .error (.missing "none.toml") ∧
    ∃ settings, load layeredDisk layeredEnvironment (some "extra.toml") = .ok settings ∧
      settings.provider.timeoutSeconds = 5 ∧ settings.provider.tokenEnv = "B" ∧
      settings.output.color = false ∧ settings.audit.enabled = false := by
  refine ⟨(load_precedence _ _ _).1 _ rfl (by decide +kernel), ?_⟩
  obtain ⟨settings, hload, hvalue⟩ := (load_precedence _ _ _).2 fitting_layered
  exact ⟨settings, hload, (hvalue .timeoutSeconds).trans (by decide +kernel),
    (hvalue .tokenEnv).trans (by decide +kernel), (hvalue .color).trans (by decide +kernel),
    (hvalue .auditEnabled).trans (by decide +kernel)⟩

end CloudGate.Settings
