import WindowActions.Cli
import WindowActions.Proofs.Client.Live
import WindowActions.Proofs.Json.RoundTrip

/-!
# Snapshots of clients

A list of client descriptions that is written as JSON and loaded again is the same list, except that
of several descriptions of one window only the first is taken. A store describes every window once,
so its snapshot is loaded as it is. In particular what `run` prints can be given to `run` again, and
the empty program prints it once more: `snapshot_loaded`.
-/

namespace WindowActions

namespace ClientSpec

/-- The first description of every window. -/
def firsts : List ClientSpec → List ClientSpec
  | [] => []
  | spec :: specs => spec :: (firsts specs).filter (·.window != spec.window)

@[simp] theorem firsts_nil : firsts [] = [] := rfl

theorem firsts_cons (spec : ClientSpec) (specs : List ClientSpec) :
    firsts (spec :: specs) = spec :: (firsts specs).filter (·.window != spec.window) := rfl

/-- Descriptions of different windows are all taken. -/
theorem firsts_of_nodup {specs : List ClientSpec} (h : (specs.map (·.window)).Nodup) :
    firsts specs = specs := by
  induction specs with
  | nil => rfl
  | cons spec specs ih =>
      rw [List.map_cons, List.nodup_cons] at h
      rw [firsts_cons, ih h.2, List.filter_eq_self.2]
      intro other hother
      rw [bne_iff_ne]
      intro heq
      exact h.1 (heq ▸ List.mem_map_of_mem hother)

end ClientSpec

namespace ClientStore

open ClientSpec (firsts)

theorem windows_specs (store : ClientStore) :
    store.specs.map (·.window) = store.managed.map (·.window) := by
  rw [specs, List.map_map]
  rfl

theorem windows_specs_nodup (store : ClientStore) : (store.specs.map (·.window)).Nodup := by
  rw [windows_specs]
  exact store.windows_distinct

theorem specs_manage (store : ClientStore) (spec : ClientSpec) :
    (store.manage spec.window spec.state).2.specs =
      if spec.window ∈ store.specs.map (·.window) then store.specs else store.specs ++ [spec] := by
  have hfind : spec.window ∈ store.specs.map (·.window) ↔ store.find? spec.window ≠ none := by
    rw [ne_eq, find?_eq_none_iff, windows_specs, List.mem_map]
    push Not
    rfl
  rw [manage]
  split
  case h_1 c hsome => rw [if_pos (hfind.2 (by simp [hsome]))]
  case h_2 hnone =>
      rw [if_neg fun hmem => hfind.1 hmem hnone]
      simp [specs, managed, add, Client.spec]

theorem specs_foldl_manage (specs : List ClientSpec) (store : ClientStore) :
    (specs.foldl (fun store spec => (store.manage spec.window spec.state).2) store).specs =
      store.specs ++
        (firsts specs).filter fun spec => spec.window ∉ store.specs.map (·.window) := by
  induction specs generalizing store with
  | nil => simp
  | cons spec specs ih =>
      rw [List.foldl_cons, ih, specs_manage, ClientSpec.firsts_cons]
      by_cases hmem : spec.window ∈ store.specs.map (·.window)
      · rw [if_pos hmem, List.filter_cons_of_neg (by simpa using hmem), List.filter_filter]
        refine congrArg (store.specs ++ ·) (List.filter_congr fun other _ => ?_)
        by_cases hsame : other.window = spec.window
        · simpa [hsame] using hmem
        · simp [hsame]
      · rw [if_neg hmem, List.filter_cons_of_pos (by simpa using hmem), List.filter_filter,
          List.append_assoc, List.singleton_append]
        refine congrArg (store.specs ++ spec :: ·) (List.filter_congr fun other _ => ?_)
        by_cases hsame : other.window = spec.window <;> simp [hsame]

/-- The store that is made from descriptions has the first one of every window. -/
theorem specs_ofSpecs (descriptions : List ClientSpec) :
    (ofSpecs descriptions).specs = firsts descriptions := by
  have hempty : empty.specs = [] := rfl
  rw [ofSpecs, specs_foldl_manage, hempty]
  simp

end ClientStore

section Json

theorem Json.word?_natural (n : UInt32) : Json.word? (.natural n.toNat) = some n := by
  show (if n.toNat < UInt32.size then some (UInt32.ofNat n.toNat) else none) = some n
  rw [if_pos n.toNat_lt_size, UInt32.ofNat_toNat]

theorem ClientSpec.ofJson?_toJson (spec : ClientSpec) : ofJson? spec.toJson = some spec := by
  obtain ⟨window, ⟨title, className, desktop, urgent, focused, iconic, closed⟩⟩ := spec
  simp [ofJson?, toJson, ClientState.fields, ClientState.ofFields?, Json.field, Json.text?,
    Json.flag?, Json.word?_natural]

theorem Json.fits_natural (levels : Nat) (n : UInt32) :
    (Json.natural n.toNat).Fits levels :=
  ⟨n.toNat, rfl, Nat.lt_trans n.toNat_lt_size (by decide)⟩

theorem ClientSpec.fits_toJson (spec : ClientSpec) {levels : Nat} (h : 0 < levels) :
    spec.toJson.Fits levels := by
  simp [toJson, ClientState.fields, Json.Fits, Json.fieldsFit, Json.fits_natural, h]

theorem ClientSpec.fits_listToJson (specs : List ClientSpec) :
    (listToJson specs).Fits Json.maxNesting := by
  have hitems : Json.itemsFit (Json.maxNesting - 1) (specs.map (·.toJson)) := by
    induction specs with
    | nil => trivial
    | cons spec specs ih => exact ⟨spec.fits_toJson (by decide), ih⟩
  exact ⟨by decide, hitems⟩

theorem ClientSpec.mapM_ofJson? (specs : List ClientSpec) :
    (specs.map (·.toJson)).mapM ofJson? = some specs := by
  induction specs with
  | nil => rfl
  | cons spec specs ih =>
      rw [List.map_cons, List.mapM_cons, ofJson?_toJson, ih]
      rfl

/-- A text that is read as the JSON value of descriptions is loaded as these. -/
theorem ClientSpec.parseList?_of_parse? {text : String} {specs : List ClientSpec}
    (h : Json.parse? text = some (listToJson specs)) : parseList? text = some specs := by
  rw [parseList?, h]
  exact mapM_ofJson? specs

theorem ClientStore.specs_parse? {text : String} {specs : List ClientSpec}
    (h : Json.parse? text = some (ClientSpec.listToJson specs)) :
    (ClientStore.parse? text).map (·.specs) = some (ClientSpec.firsts specs) := by
  rw [ClientStore.parse?, ClientSpec.parseList?_of_parse? h, Option.map_some, Option.map_some,
    ClientStore.specs_ofSpecs]

end Json

namespace Command

theorem decodeFile_toUTF8 (text : String) : decodeFile text.toUTF8.data.toList = .ok text := by
  have hbytes : text.toUTF8.data.toList.toByteArray = text.toUTF8 := by
    apply ByteArray.ext
    rw [List.data_toByteArray, Array.toArray_toList]
  have hvalid : text.toUTF8.IsValidUTF8 := text.isValidUTF8
  rw [decodeFile, hbytes, String.fromUTF8?, dif_pos hvalid]
  rfl

theorem load_empty [PatternEngine] : Vocabulary.builtin.load "" = .ok [] := by
  have htokens : tokenize "" = .ok ⟨[], .start⟩ := rfl
  have hread : TokenStream.toProgram ⟨[], .start⟩ = .ok [] := by
    rw [TokenStream.toProgram, readList]
    rfl
  simp only [Vocabulary.load, Vocabulary.parse, htokens, hread]
  rfl

/-- The empty program leaves the clients of a snapshot as they are. -/
theorem runOnClients_empty [PatternEngine] {json : String} {clients : ClientStore}
    (h : Json.parse? json = some (ClientSpec.listToJson clients.specs)) (target : Option UInt32)
    (context : FrameContext) : runOnClients json target context "" = .ok clients.specs := by
  have hloaded := ClientStore.specs_parse? h
  rw [ClientSpec.firsts_of_nodup clients.windows_specs_nodup] at hloaded
  obtain ⟨loaded, hparse, hspecs⟩ := Option.map_eq_some_iff.1 hloaded
  rw [runOnClients, hparse]
  simp only [load_empty]
  exact congrArg Except.ok hspecs

theorem runOnClients_specs [PatternEngine] {json : String} {target : Option UInt32}
    {context : FrameContext} {program : String} {specs : List ClientSpec}
    (h : runOnClients json target context program = .ok specs) :
    ∃ clients : ClientStore, specs = clients.specs := by
  rw [runOnClients] at h
  cases hparse : ClientStore.parse? json with
  | none =>
      rw [hparse] at h
      cases h
  | some clients =>
      cases hload : Vocabulary.builtin.load program with
      | error e =>
          simp only [hparse, hload] at h
          cases h
      | ok list =>
          simp only [hparse, hload] at h
          cases h
          exact ⟨_, rfl⟩

/-- What `run` prints is a snapshot of some clients. -/
theorem execute_run [PatternEngine] {path : String} {target : Option UInt32}
    {context : FrameContext} {program text : String} {contents : Except ReadError String}
    (h : (run path target context program).execute contents = .ok text) :
    ∃ clients : ClientStore, text = (ClientSpec.listToJson clients.specs).indented ++ "\n" := by
  cases contents with
  | error e => cases h
  | ok json =>
      cases hrun : runOnClients json target context program with
      | error e =>
          simp only [execute, hrun] at h
          cases h
      | ok specs =>
          obtain ⟨clients, rfl⟩ := runOnClients_specs hrun
          simp only [execute, hrun] at h
          cases h
          exact ⟨clients, rfl⟩

/-- A snapshot in the file of the clients is printed again by the empty program. -/
theorem execute_snapshot [PatternEngine] (path : String) (target : Option UInt32)
    (context : FrameContext) (clients : ClientStore) :
    let text := (ClientSpec.listToJson clients.specs).indented ++ "\n"
    (run path target context "").execute (decodeFile text.toUTF8.data.toList) = .ok text := by
  intro text
  have hnewline : Json.Blank ['\n'] := by
    intro c hc
    rw [List.mem_singleton.1 hc]
    rfl
  have hparse : Json.parse? text = some (ClientSpec.listToJson clients.specs) :=
    Json.parse?_indented (ClientSpec.fits_listToJson clients.specs) hnewline
  rw [decodeFile_toUTF8]
  simp only [execute, runOnClients_empty hparse]
  rfl

end Command

/-- Descriptions of clients, written in either layout, are loaded again with the first one of every
window, and those of a store as they are. What `run` prints for some clients and some program is
printed again by the empty program, if it is given as the file of the clients. -/
theorem snapshot_loaded [PatternEngine] :
    (∀ specs : List ClientSpec,
      (ClientStore.parse? (ClientSpec.listToJson specs).compact).map (·.specs) =
          some (ClientSpec.firsts specs) ∧
        (ClientStore.parse? (ClientSpec.listToJson specs).indented).map (·.specs) =
          some (ClientSpec.firsts specs)) ∧
    (∀ clients : ClientStore,
      (ClientStore.parse? (ClientSpec.listToJson clients.specs).compact).map (·.specs) =
          some clients.specs ∧
        (ClientStore.parse? (ClientSpec.listToJson clients.specs).indented).map (·.specs) =
          some clients.specs) ∧
    ∀ (path path' : String) (target target' : Option UInt32) (context context' : FrameContext)
      (program : String) (contents : Except ReadError String),
      let printed := (Command.run path target context program).execute contents
      (do
        let text ← printed
        (Command.run path' target' context' "").execute (decodeFile text.toUTF8.data.toList)) =
        printed := by
  have hcompact : ∀ specs, Json.parse? (ClientSpec.listToJson specs).compact =
      some (ClientSpec.listToJson specs) :=
    fun specs => Json.parse?_compact (ClientSpec.fits_listToJson specs)
  have hindented : ∀ specs, Json.parse? (ClientSpec.listToJson specs).indented =
      some (ClientSpec.listToJson specs) := by
    intro specs
    have hparse := Json.parse?_indented (ClientSpec.fits_listToJson specs) Json.blank_nil
    rwa [String.ofList_nil, String.append_empty] at hparse
  have hfirsts : ∀ clients : ClientStore, ClientSpec.firsts clients.specs = clients.specs :=
    fun clients => ClientSpec.firsts_of_nodup clients.windows_specs_nodup
  refine ⟨fun specs => ⟨ClientStore.specs_parse? (hcompact specs),
    ClientStore.specs_parse? (hindented specs)⟩, fun clients => ⟨?_, ?_⟩, ?_⟩
  · rw [ClientStore.specs_parse? (hcompact _), hfirsts]
  · rw [ClientStore.specs_parse? (hindented _), hfirsts]
  · intro path path' target target' context context' program contents printed
    cases hprinted : printed with
    | error e => rfl
    | ok text =>
        obtain ⟨clients, rfl⟩ := Command.execute_run hprinted
        exact Command.execute_snapshot path' target' context' clients

end WindowActions
