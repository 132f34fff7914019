import CloudGate.Proofs.Request.Path

/-!
The text of a template. Its places are found by a scan for braces, which comes to the same as
filling the segments of the route one after the other.

* `fillText_append`, `fillText_place`, `fillText_open`: the steps of the scan.
* `fillText_template`: so it fills the text of a path as the path is filled.
* `prepare_eq_fillText`: the request of every operation is what the scan of its template gives.
-/

namespace CloudGate.Request

open Text

variable {template : String}

/-! ## Steps of the scan -/

/-- The scan without the facts that bound it. -/
theorem fillText_eq (template : String) (cs : List Char) (arguments : Fields Json) :
    fillText template cs arguments =
      match splitFirst? '{' cs with
      | none => .ok (cs, arguments)
      | some (before, behind) =>
        match splitFirst? '}' behind with
        | none => .error (.unsupported ("malformed path template " ++ template))
        | some (place, after) => (do
          let name := String.ofList place
          let segment ← fillArgument name (arguments.get? name)
          let (more, left) ← fillText template after (arguments.erase name)
          .ok (before ++ segment.toList ++ more, left)) := by
  rw [fillText]
  split
  · rename_i hopen
    rw [hopen]
  · rename_i hopen
    rw [hopen]
    simp only
    split
    · rename_i hclose
      rw [hclose]
    · rename_i hclose
      rw [hclose]

/-- Text that opens no place stays in front of what the scan finds behind it. -/
theorem fillText_append {front : List Char} (h : '{' ∉ front) (cs : List Char)
    (arguments : Fields Json) :
    fillText template (front ++ cs) arguments =
      (fillText template cs arguments).map fun (path, left) => (front ++ path, left) := by
  rw [fillText_eq, fillText_eq template cs, splitFirst?_append h]
  cases splitFirst? '{' cs with
  | none => rfl
  | some parts =>
    obtain ⟨before, behind⟩ := parts
    simp only [Option.map_some]
    cases splitFirst? '}' behind with
    | none => rfl
    | some parts =>
      obtain ⟨place, after⟩ := parts
      simp only
      cases fillArgument (String.ofList place) (arguments.get? (String.ofList place)) with
      | error f => rfl
      | ok segment =>
        cases fillText template after (arguments.erase (String.ofList place)) with
        | error f => rfl
        | ok filled => simp [bind, Except.bind, Except.map]

/-- A place takes the argument that it names. -/
theorem fillText_place {name : String} (h : '}' ∉ name.toList) (cs : List Char)
    (arguments : Fields Json) :
    fillText template ('{' :: (name.toList ++ '}' :: cs)) arguments = (do
      let segment ← fillArgument name (arguments.get? name)
      let (more, left) ← fillText template cs (arguments.erase name)
      .ok (segment.toList ++ more, left)) := by
  have hopen : splitFirst? '{' ('{' :: (name.toList ++ '}' :: cs)) =
      some ([], name.toList ++ '}' :: cs) := rfl
  have hclose : splitFirst? '}' (name.toList ++ '}' :: cs) = some (name.toList, cs) :=
    splitFirst?_eq_some.mpr ⟨h, rfl⟩
  rw [fillText_eq, hopen]
  simp only [hclose, String.ofList_toList]
  rfl

/-- A place that is not closed is reported, whatever the arguments are. -/
theorem fillText_open {front behind : List Char} (hfront : '{' ∉ front) (hbehind : '}' ∉ behind)
    (arguments : Fields Json) :
    fillText template (front ++ '{' :: behind) arguments =
      .error (.unsupported ("malformed path template " ++ template)) := by
  have hopen : splitFirst? '{' (front ++ '{' :: behind) = some (front, behind) :=
    splitFirst?_eq_some.mpr ⟨hfront, rfl⟩
  rw [fillText_eq, hopen]
  simp only [splitFirst?_of_not_mem hbehind]

/-! ## Templates of routes -/

/-- Fixed text opens no place, and the name of an argument closes none. -/
def Segment.IsScannable : Segment → Prop
  | .literal text => '{' ∉ text.toList
  | .argument name => '}' ∉ name.toList

instance (segment : Segment) : Decidable segment.IsScannable := by
  cases segment <;> exact inferInstanceAs (Decidable (¬ _))

theorem routes_scannable : ∀ p ∈ routes, ∀ segment ∈ p.2.path, segment.IsScannable := by
  decide

theorem toList_template (r : Route) :
    r.template.toList = r.path.flatMap fun segment => segment.template.toList := by
  rw [Route.template, String.toList_join, List.flatMap_map]

/-- Segments that can be scanned are filled by the scan of their text as they are one by one. -/
theorem fillText_template {path : List Segment} (h : ∀ segment ∈ path, segment.IsScannable)
    (arguments : Fields Json) :
    fillText template (path.flatMap fun segment => segment.template.toList) arguments =
      (fillPath path arguments).map fun (segments, left) => ((joinPath segments).toList, left) := by
  induction path generalizing arguments with
  | nil =>
    have hnone : splitFirst? '{' [] = none := rfl
    rw [List.flatMap_nil, fillText_eq, hnone]
    rfl
  | cons segment rest ih =>
    obtain ⟨hsegment, hrest⟩ := List.forall_mem_cons.mp h
    rw [List.flatMap_cons]
    cases segment with
    | literal text =>
      have htext : (Segment.literal text).template.toList = '/' :: text.toList := by
        simp [Segment.template]
      have hplain : '{' ∉ text.toList := hsegment
      have hfront : '{' ∉ '/' :: text.toList := by
        simpa using hplain
      rw [htext, fillText_append hfront, ih hrest, fillPath]
      cases fillPath rest arguments with
      | error f => rfl
      | ok filled => simp [bind, Except.bind, Except.map, toList_joinPath]
    | argument name =>
      have hplace : (Segment.argument name).template.toList ++
          rest.flatMap (fun segment => segment.template.toList) = ['/'] ++ '{' :: (name.toList ++
            '}' :: rest.flatMap fun segment => segment.template.toList) := by
        simp [Segment.template]
      rw [hplace, fillText_append (by decide), fillText_place hsegment, ih hrest, fillPath]
      cases fillArgument name (arguments.get? name) with
      | error f => rfl
      | ok segment =>
        cases fillPath rest (arguments.erase name) with
        | error f => rfl
        | ok filled => simp [bind, Except.bind, Except.map, toList_joinPath]

/-- Whatever the arguments are, the request of an operation is what a scan of its template gives.
None of the templates has a place that is not closed. -/
theorem prepare_eq_fillText {operation : String} {route : Route}
    (hroute : routeOf? operation = some route) (arguments : Fields Json) :
    route.prepare arguments =
      (fillText route.template route.template.toList arguments).map fun (path, left) =>
        { method := route.method
          path := String.ofList path
          body := if route.method.hasBody then some (.obj (route.members left)) else none } := by
  have hscannable := routes_scannable _ (mem_routes_of_routeOf? hroute)
  rw [toList_template, fillText_template hscannable, Route.prepare]
  cases fillPath route.path arguments with
  | error f => rfl
  | ok filled => simp [bind, Except.bind, Except.map]

end CloudGate.Request
