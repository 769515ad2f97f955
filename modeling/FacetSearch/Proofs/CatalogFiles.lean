import FacetSearch.Command.Run
import FacetSearch.Proofs.Defects
/-!
# Files that describe no catalog

A catalog file that cannot be read is refused with the reason, and so is a value that has no object of tables. Nothing
else about the value is looked at in advance: what is wrong with the tables and keys themselves is found while the catalog
is made, as the first of a list of defects (`Catalog.defects`), and none of these is reported. So a file that describes no
catalog ends the command with the code two and a line about the file, or with a failure, and which of the two it is can be
told from the file (`Command.ends_of_catalogFile`).
-/

namespace FacetSearch

namespace Catalog

/-! ## What is wrong with tables and keys -/

/-- What should be an object is none. -/
def objectDefect (v : Value) : Defect := ⟨v.entries?.isNone, .failure .missingMember⟩

/-- What should name a column is neither a text nor empty. -/
def nameDefect (v : Value) : Defect :=
  ⟨v.isTruthy && match v with | .text _ => false | _ => true, .failure .missingMember⟩

/-- A key is no list, object or text, or one of the columns in it has no name. -/
def keyDefects (key : Value) : List Defect :=
  match key.items? with
  | some items => items.map nameDefect
  | none => [⟨true, .failure .wrongType⟩]

/-- The columns of one of the tables are no object; or else, unless the keys are empty, they are no object, or one of
them is no key. These are all that can be wrong with tables and keys, in the order in which they are found. -/
def defects (tables : List (Value × Value)) (keys : Value) : List Defect :=
  tables.map (fun e => objectDefect e.2) ++
    if keys.isTruthy then objectDefect keys :: (keys.entries?.getD []).flatMap fun e => keyDefects e.2 else []

end Catalog

namespace Value.IsDecoded

/-- What a decoded value consists of is decoded. -/
theorem of_mem_items {v : Value} (h : v.IsDecoded) {items : List Value} (hitems : v.items? = some items) {item : Value}
    (hitem : item ∈ items) : item.IsDecoded := by
  cases h with
  | text s =>
    obtain rfl := Option.some.inj hitems
    obtain ⟨c, -, rfl⟩ := List.mem_map.1 hitem
    exact .text _
  | list h =>
    obtain rfl := Option.some.inj hitems
    exact h item hitem
  | object hk _ =>
    obtain rfl := Option.some.inj hitems
    obtain ⟨e, he, rfl⟩ := List.mem_map.1 hitem
    obtain ⟨s, hs⟩ := hk e he
    rw [hs]
    exact .text s
  | _ => cases hitems

section

variable {es : List (Value × Value)} (h : (Value.object es).IsDecoded) {e : Value × Value} (he : e ∈ es)

include h he

theorem of_mem_entries : e.2.IsDecoded := by
  cases h with
  | object _ hv => exact hv e he

/-- A key of a decoded object is a name. -/
theorem exists_name : ∃ n, CatalogName.ofValue e.1 = .ok n := by
  cases h with
  | object hk _ =>
    obtain ⟨s, hs⟩ := hk e he
    rw [hs, CatalogName.ofValue]
    split
    · exact ⟨_, rfl⟩
    · exact ⟨_, rfl⟩

end

end Value.IsDecoded

namespace Catalog

/-! ## What is found -/

theorem ofValue_reports {v : Value} (h : v.IsDecoded) : Reports (CatalogName.ofValue v) [nameDefect v] := by
  unfold CatalogName.ofValue nameDefect
  cases htruthy : v.isTruthy with
  | false => exact .cons nofun fun _ => .ok _
  | true =>
    cases h with
    | text s => exact .cons nofun fun _ => .ok _
    | _ => exact .cons (fun _ => rfl) nofun

theorem entriesOf_reports (v : Value) : Reports (entriesOf v) [objectDefect v] := by
  cases v with
  | object es => exact .cons nofun fun _ => .ok _
  | _ => exact .cons (fun _ => rfl) nofun

theorem entriesOf_eq_ok {v : Value} {es : List (Value × Value)} (h : entriesOf v = .ok es) : v = .object es := by
  cases v with
  | object es' =>
    obtain rfl := Except.ok.inj h
    rfl
  | _ => cases h

theorem columnsOf_reports {v : Value} (h : v.IsDecoded) : Reports (columnsOf v) [objectDefect v] := by
  refine .bind_ok (entriesOf_reports v) fun es hes => ?_
  obtain rfl := entriesOf_eq_ok hes
  refine exists_mapM fun (c, type) he => ?_
  obtain ⟨n, hn⟩ := h.exists_name he
  exact ⟨(n, typeOf? type), bind_eq_ok.2 ⟨n, hn, rfl⟩⟩

theorem keyOf_reports {v : Value} (h : v.IsDecoded) : Reports (keyOf v) (keyDefects v) := by
  unfold keyOf keyDefects
  cases hitems : v.items? with
  | none => exact .cons (fun _ => rfl) nofun
  | some items => exact .mapM_single fun item hitem => ofValue_reports (h.of_mem_items hitems hitem)

/-- A catalog is made of an object of tables and of keys if nothing is wrong with them, and the first thing that is wrong is
the error otherwise. -/
theorem ofValues_reports {tables : List (Value × Value)} {keys : Value} (ht : (Value.object tables).IsDecoded)
    (hk : keys.IsDecoded) : Reports (ofValues (.object tables) keys) (defects tables keys) := by
  have htables : ∀ e ∈ tables, Reports (do
      let columns ← columnsOf e.2
      return (← CatalogName.ofValue e.1, Keyed.ofList columns)) [objectDefect e.2] := by
    intro e he
    obtain ⟨n, hn⟩ := ht.exists_name he
    exact .bind_ok (columnsOf_reports (ht.of_mem_entries he)) fun columns _ =>
      ⟨(n, Keyed.ofList columns), bind_eq_ok.2 ⟨n, hn, rfl⟩⟩
  -- the tables come first: the keys are looked at only after nothing is wrong with any table
  refine .ok_bind (a := tables) rfl (.bind (.mapM_single htables) fun _ _ => ?_)
  cases keys.isTruthy with
  | false => exact .ok _
  | true =>
    show Reports _ ([objectDefect keys] ++ (keys.entries?.getD []).flatMap fun e => keyDefects e.2)
    refine .bind (entriesOf_reports keys) fun es hes => ?_
    obtain rfl := entriesOf_eq_ok hes
    refine .bind_ok (.mapM fun (t, key) he => ?_) fun _ _ => ⟨_, rfl⟩
    obtain ⟨n, hn⟩ := hk.exists_name he
    exact .ok_bind hn (.bind_ok (keyOf_reports (hk.of_mem_entries he)) fun names _ => ⟨(n, names), rfl⟩)

/-! ## What comes of a file -/

/-- What a text is as JSON, with all line ends as line feeds. -/
def json (text : String) : Except Json.Fault Value := Json.readUnmarked (Text.unifyLines text.toList)

/-- There is no text in the file, it is no JSON, or its value has no object of tables. -/
inductive Refuses (path : String) : Except FileFault String → ConfigurationFault → Prop
  | missing (f : FileFault) : Refuses path (.error f) (.catalogUnreadable path (f.message path))
  | malformed {text : String} {f : Json.Fault} (h : json text = .error f) (hdepth : f.kind ≠ .depth) :
    Refuses path (.ok text) (.catalogUnreadable path (f.message (Text.unifyLines text.toList)))
  | shape {text : String} {v : Value} (h : json text = .ok v) (hcolumns : ∀ es, v.get? "columns" ≠ some (.object es)) :
    Refuses path (.ok text) (.catalogShape path)

/-- The brackets of the file are nested too deep, or something is wrong with its tables or keys. -/
inductive Breaks : Except FileFault String → Failure → Prop
  | depth {text : String} {f : Json.Fault} (h : json text = .error f) (hdepth : f.kind = .depth) : Breaks (.ok text) .depth
  | defect {text : String} {v : Value} {tables : List (Value × Value)} {k : Failure} (h : json text = .ok v)
    (hcolumns : v.get? "columns" = some (.object tables))
    (hfirst : Defect.first (defects tables (v.part "primary_keys")) = some (.failure k)) : Breaks (.ok text) k

/-- The value of the file has an object of tables, and nothing is wrong with these and the keys. -/
inductive Describes : Except FileFault String → Prop
  | tables {text : String} {v : Value} {tables : List (Value × Value)} (h : json text = .ok v)
    (hcolumns : v.get? "columns" = some (.object tables))
    (hfirst : Defect.first (defects tables (v.part "primary_keys")) = none) : Describes (.ok text)

theorem isDecoded_of_json {text : String} {v : Value} (h : json text = .ok v) : v.IsDecoded := by
  unfold json Json.readUnmarked at h
  split at h
  · cases h
  · exact Json.isDecoded_of_read h

/-- Nothing that is wrong with tables and keys is an error that is reported. -/
theorem failure_of_first {tables : List (Value × Value)} {keys : Value} {e : Error}
    (h : Defect.first (defects tables keys) = some e) : ∃ k, e = .failure k := by
  obtain ⟨d, hd, rfl⟩ := Option.map_eq_some_iff.1 h
  rcases List.mem_append.1 (List.mem_of_find?_eq_some hd) with hd | hd
  · obtain ⟨_, -, rfl⟩ := List.mem_map.1 hd
    exact ⟨_, rfl⟩
  · split at hd
    · rcases List.mem_cons.1 hd with rfl | hd
      · exact ⟨_, rfl⟩
      · obtain ⟨e, -, hd⟩ := List.mem_flatMap.1 hd
        unfold keyDefects at hd
        split at hd
        · obtain ⟨_, -, rfl⟩ := List.mem_map.1 hd
          exact ⟨_, rfl⟩
        · obtain rfl := List.mem_singleton.1 hd
          exact ⟨_, rfl⟩
    · cases hd

theorem fileValue_of_json {path text : String} {v : Value} (h : json text = .ok v) : fileValue path (.ok text) = .ok v := by
  unfold json at h
  simp only [fileValue, h]

/-- A value with an object of tables is described as far as nothing is wrong with it. -/
theorem ofFile_reports {path text : String} {v : Value} {tables : List (Value × Value)} (h : json text = .ok v)
    (hcolumns : v.get? "columns" = some (.object tables)) :
    Reports (ofFile path (.ok text)) (defects tables (v.part "primary_keys")) := by
  have hdecoded := isDecoded_of_json h
  have htables := hdecoded.part "columns"
  rw [Value.part, hcolumns] at htables
  refine .ok_bind (fileValue_of_json h) ?_
  simp only [hcolumns]
  exact ofValues_reports htables (hdecoded.part "primary_keys")

/-- A file describes a catalog, or it is refused, or it is not read or made a catalog of for a reason that is not
reported. -/
theorem ofFile_outcome (path : String) (content : Except FileFault String) :
    (Describes content ∧ ∃ c, ofFile path content = .ok c) ∨
      (∃ f, Refuses path content f ∧ ofFile path content = .error (.configuration f)) ∨
      ∃ k, Breaks content k ∧ ofFile path content = .error (.failure k) := by
  cases content with
  | error f => exact .inr (.inl ⟨_, .missing f, rfl⟩)
  | ok text =>
    cases hjson : json text with
    | error f =>
      have hvalue : fileValue path (.ok text) = .error (f.failure?.getD
          (.configuration (.catalogUnreadable path (f.message (Text.unifyLines text.toList))))) := by
        unfold json at hjson
        simp only [fileValue, hjson]
      by_cases hdepth : f.kind = .depth
      · rw [Json.Fault.failure?, if_pos hdepth] at hvalue
        exact .inr (.inr ⟨_, .depth hjson hdepth, by rw [ofFile, hvalue]; rfl⟩)
      · rw [Json.Fault.failure?, if_neg hdepth] at hvalue
        exact .inr (.inl ⟨_, .malformed hjson hdepth, by rw [ofFile, hvalue]; rfl⟩)
    | ok v =>
      by_cases htables : ∃ tables, v.get? "columns" = some (.object tables)
      · obtain ⟨tables, htables⟩ := htables
        have hreports : Reports (ofFile path (.ok text)) _ := ofFile_reports hjson htables
        unfold Reports at hreports
        cases hfile : ofFile path (.ok text) with
        | ok c =>
          rw [hfile] at hreports
          exact .inl ⟨.tables hjson htables hreports, c, rfl⟩
        | error e =>
          rw [hfile] at hreports
          obtain ⟨k, rfl⟩ := failure_of_first hreports
          exact .inr (.inr ⟨k, .defect hjson htables hreports, rfl⟩)
      · have hfile : ofFile path (.ok text) = .error (.configuration (.catalogShape path)) := by
          rw [ofFile, fileValue_of_json hjson]
          simp only [bind, Except.bind]
          split
          · exact absurd ⟨_, ‹_›⟩ htables
          · rfl
        exact .inr (.inl ⟨_, .shape hjson fun es hes => htables ⟨es, hes⟩, hfile⟩)

end Catalog

namespace Command

/-- The catalog that is named is looked at before anything else. -/
theorem perform_of_catalogFile_error {a : Arguments} {w : Surroundings} {p : Path} (hp : a.catalogPath? = some p)
    {e : Error} (h : Catalog.ofFile p.text w.catalogFile = .error e) :
    (Step.perform a w).run (start a w) = (.error e, start a w) := by
  have hnamed : Step.namedCatalog a w = .error e := by
    simp only [Step.namedCatalog, hp, h]
    rfl
  rw [Step.perform, hnamed]
  rfl

/-- Of a file that is named as the catalog a catalog is made, or it is refused, or it breaks the command: with a line about
the file and the code two in the one case and a failure in the other, and with nothing else done in both. -/
theorem ends_of_catalogFile {a : Arguments} {w : Surroundings} {p : Path} (hp : a.catalogPath? = some p) :
    (Catalog.Describes w.catalogFile ∧ ∃ c, Catalog.ofFile p.text w.catalogFile = .ok c) ∨
      (∃ f, Catalog.Refuses p.text w.catalogFile f ∧ Catalog.ofFile p.text w.catalogFile = .error (.configuration f) ∧
        run a w = { ending := .code 2, errors := reportLine .configuration f.message, run := start a w }) ∨
      ∃ k, Catalog.Breaks w.catalogFile k ∧ Catalog.ofFile p.text w.catalogFile = .error (.failure k) ∧
        run a w = { ending := .failed (.failure k), run := start a w } := by
  rcases Catalog.ofFile_outcome p.text w.catalogFile with h | ⟨f, hf, h⟩ | ⟨k, hk, h⟩
  · exact .inl h
  · exact .inr (.inl ⟨f, hf, h, by simp only [run, perform_of_catalogFile_error hp h, Error.report?]⟩)
  · exact .inr (.inr ⟨k, hk, h, by simp only [run, perform_of_catalogFile_error hp h, Error.report?]⟩)

/-! ### Lists of tables -/

/-- The command that lists the tables of a file. -/
def listing : Arguments := { catalog := .value "tables.json", listTables := true }

/-- A file with this text is named as the catalog. -/
def aroundFile (text : String) : Surroundings where
  environment := []
  configPath := "config/appconfig.json"
  catalogFile := .ok text
  database := {}

/-- A file without tables is refused. -/
theorem ends_emptyFile : listing.catalogPath? = some (Path.ofString "tables.json") ∧
    (run listing (aroundFile "\x7b\x7d")).ending = .code 2 := by
  have hpath : listing.catalogPath? = some (Path.ofString "tables.json") := rfl
  have hjson : Catalog.json "\x7b\x7d" = .ok (.object []) := by cbv
  refine ⟨hpath, ?_⟩
  rcases ends_of_catalogFile (w := aroundFile "\x7b\x7d") hpath with ⟨hdescribes, -⟩ | ⟨f, -, -, hrun⟩ | ⟨k, hbreaks, -⟩
  · cases hdescribes with
    | tables h htables =>
      obtain rfl := Except.ok.inj (hjson.symm.trans h)
      cases htables
  · rw [hrun]
  · cases hbreaks with
    | depth h => cases hjson.symm.trans h
    | defect h htables =>
      obtain rfl := Except.ok.inj (hjson.symm.trans h)
      cases htables

/-- Columns that are a list end the command with a failure. -/
theorem ends_listedColumns :
    (run listing (aroundFile "\x7b\"columns\": \x7b\"t\": []\x7d\x7d")).ending = .failed (.failure .missingMember) := by
  have hfile : Catalog.ofFile (Path.ofString "tables.json").text (.ok "\x7b\"columns\": \x7b\"t\": []\x7d\x7d") =
      .error (.failure .missingMember) := by cbv
  have hperform := perform_of_catalogFile_error (a := listing)
    (w := aroundFile "\x7b\"columns\": \x7b\"t\": []\x7d\x7d") (p := Path.ofString "tables.json") rfl hfile
  simp only [run, hperform, Error.report?]

end Command

end FacetSearch
