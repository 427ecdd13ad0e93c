import EntitySurface.Proofs.Emission.Directories

/-!
# Sequences of requests to an emitter

An emitter may be asked anything at any time. What does not fit the order of the calls is refused
and leaves no trace: what an emitter hands over in the end is given by its sessions, each of them an
entity with the calls that were taken between its begin and its end. A stub holds all of them. A
manifest has one place for the action groups of an entity and one for its search plan, and so it
holds the last block of each.
-/

namespace EntitySurface

/-- The value that is listed for a key is found under it. -/
theorem Dictionary.find?_of_mem_entries {α : Type} {dictionary : Dictionary α} {key : String}
    {value : α} (mem : (key, value) ∈ dictionary.entries) :
    dictionary.find? key = some value := by
  obtain ⟨before, after, split⟩ := List.append_of_mem mem
  refine List.lookup_eq_some_iff.mpr ⟨before, after, split, fun entry inBefore => ?_⟩
  have ordered := dictionary.ordered
  rw [split] at ordered
  have less := (List.pairwise_append.mp ordered).2.2 entry inBefore _ List.mem_cons_self
  simpa using (String.ne_of_lt less).symm

/-- What an emitter may be asked. -/
inductive EmitterRequest where
  | call (call : EmitterCall)
  | finish
  deriving DecidableEq

/-- An entity with the calls that an emitter takes while it is open. -/
structure EmitterSession where
  entity : Entity
  calls : List EmitterCall := []

/-- The sessions of an emitter so far. -/
structure SessionLog where
  ended : List EmitterSession := []
  open? : Option EmitterSession := none

namespace SessionLog

/-- An entity is begun only when none is open and the emitter finishes only then; everything else is
called for an open entity. -/
def Fits (log : SessionLog) : EmitterRequest → Prop
  | .call call => call.needsOpen = log.open?.isSome
  | .finish => log.open? = none

/-- The sessions after a request; one that does not fit changes nothing. -/
def after (log : SessionLog) : EmitterRequest → SessionLog
  | .finish => log
  | .call call =>
      match log.open?, call with
      | none, .beginEntity entity => { log with open? := some { entity } }
      | none, _ => log
      | some _, .beginEntity _ => log
      | some session, .endEntity => { ended := log.ended ++ [session] }
      | some session, call =>
          { log with open? := some { session with calls := session.calls ++ [call] } }

/-- The sessions of a sequence of requests. -/
def of (requests : List EmitterRequest) : SessionLog :=
  requests.foldl after {}

theorem after_of_not_fits {log : SessionLog} {request : EmitterRequest}
    (unfit : ¬ log.Fits request) : log.after request = log := by
  rcases log with ⟨ended, _ | session⟩ <;> cases request with
  | finish => rfl
  | call call => cases call <;> first | rfl | exact absurd rfl unfit

end SessionLog

/-! ## Answers -/

namespace Emitter

variable {ε : Type} [Emitter ε]

/-- The answer of an emitter, and the emitter after it. A call that is taken hands nothing over. -/
def answer (emitter : ε) : EmitterRequest → Except Fault (List GeneratedFile) × ε
  | .call call =>
      match take emitter call with
      | .ok changed => (.ok [], changed)
      | .error fault => (.error fault, emitter)
  | .finish =>
      match finish emitter with
      | .ok (files, rest) => (.ok files, rest)
      | .error fault => (.error fault, emitter)

/-- The emitter after a sequence of requests, each of which it may refuse. -/
def afterAll (emitter : ε) (requests : List EmitterRequest) : ε :=
  requests.foldl (fun current request => (answer current request).2) emitter

/-- No finish among the requests succeeds. -/
def Unfinished (emitter : ε) : List EmitterRequest → Prop
  | [] => True
  | request :: rest =>
      (request = .finish → ∃ fault, (answer emitter .finish).1 = .error fault) ∧
        Unfinished (answer emitter request).2 rest

theorem Unfinished.of_append {emitter : ε} {earlier later : List EmitterRequest}
    (unfinished : Unfinished emitter (earlier ++ later)) : Unfinished emitter earlier := by
  induction earlier generalizing emitter with
  | nil => trivial
  | cons request rest ih => exact ⟨unfinished.1, ih unfinished.2⟩

/-- The requests that do not fit are refused with a fault of emission and change nothing, and all
others succeed. -/
def Obeys (emitter : ε) (log : SessionLog) : Prop :=
  ∀ request,
    (¬ log.Fits request → ∃ cause, answer emitter request = (.error (.emission cause), emitter)) ∧
    (log.Fits request → ∃ files, (answer emitter request).1 = .ok files)

/-- The state of an emitter is given by its sessions, and so are the files that it hands over. -/
structure Tracks (state : SessionLog → ε) (files : SessionLog → List GeneratedFile) : Prop where
  take {log call} (fits : log.Fits (.call call)) :
    Emitter.take (state log) call = .ok (state (log.after (.call call)))
  refuse {log call} (unfit : ¬ log.Fits (.call call)) :
    ∃ cause, Emitter.take (state log) call = .error (.emission cause)
  finish {log} (fits : log.Fits .finish) :
    ∃ rest, Emitter.finish (state log) = .ok (files log, rest)
  wait {log} (unfit : ¬ log.Fits .finish) :
    ∃ cause, Emitter.finish (state log) = .error (.emission cause)

namespace Tracks

variable {state : SessionLog → ε} {files : SessionLog → List GeneratedFile}
  (tracks : Tracks state files)
include tracks

theorem answer_of_not_fits {log : SessionLog} {request : EmitterRequest}
    (unfit : ¬ log.Fits request) :
    ∃ cause, answer (state log) request = (.error (.emission cause), state log) := by
  cases request with
  | call call =>
      obtain ⟨cause, refused⟩ := tracks.refuse unfit
      exact ⟨cause, by simp only [answer, refused]⟩
  | finish =>
      obtain ⟨cause, refused⟩ := tracks.wait unfit
      exact ⟨cause, by simp only [answer, refused]⟩

theorem answer_call {log : SessionLog} {call : EmitterCall} (fits : log.Fits (.call call)) :
    answer (state log) (.call call) = (.ok [], state (log.after (.call call))) := by
  simp only [answer, tracks.take fits]

theorem answer_finish {log : SessionLog} (closed : log.open? = none) :
    ∃ rest, answer (state log) .finish = (.ok (files log), rest) := by
  obtain ⟨rest, finished⟩ := tracks.finish closed
  exact ⟨rest, by simp only [answer, finished]⟩

theorem obeys (log : SessionLog) : Obeys (state log) log := by
  intro request
  refine ⟨tracks.answer_of_not_fits, fun fits => ?_⟩
  cases request with
  | call call => exact ⟨[], by rw [tracks.answer_call fits]⟩
  | finish =>
      obtain ⟨rest, finished⟩ := tracks.answer_finish fits
      exact ⟨files log, by rw [finished]⟩

/-- As long as no finish succeeds, the emitter is in the state of its sessions. -/
theorem afterAll {log : SessionLog} {requests : List EmitterRequest}
    (unfinished : Unfinished (state log) requests) :
    Emitter.afterAll (state log) requests = state (requests.foldl SessionLog.after log) := by
  induction requests generalizing log with
  | nil => rfl
  | cons request rest ih =>
      obtain ⟨refused, later⟩ := unfinished
      have step : (answer (state log) request).2 = state (log.after request) := by
        by_cases fits : log.Fits request
        · cases request with
          | call call => rw [tracks.answer_call fits]
          | finish =>
              obtain ⟨fault, failed⟩ := refused rfl
              obtain ⟨rest, finished⟩ := tracks.answer_finish fits
              rw [finished] at failed
              contradiction
        · obtain ⟨cause, unchanged⟩ := tracks.answer_of_not_fits fits
          rw [unchanged, SessionLog.after_of_not_fits fits]
      rw [step] at later
      rw [Emitter.afterAll, List.foldl_cons, step, List.foldl_cons]
      exact ih later

end Tracks

end Emitter

/-! ## What a session leaves -/

namespace EmitterCall

/-- The operation that a call registers. -/
def operation? : EmitterCall → Option Operation
  | .operation registered => some registered
  | _ => none

/-- The page that a call registers. -/
def page? : EmitterCall → Option Page
  | .page registered => some registered
  | _ => none

/-- The chain that a call renders. -/
def chain? : EmitterCall → Option HookChain
  | .block (.hookChain chain) => some chain
  | _ => none

/-- The search plan that a call renders. -/
def plan? : EmitterCall → Option SearchPlan
  | .block (.search plan) => some plan
  | _ => none

/-- The action groups that a call renders. -/
def groups? : EmitterCall → Option GroupSet
  | .block (.actionGroups groups) => some groups
  | _ => none

/-- What a call adds to the functions of the operations. -/
def operationText (docs : Bool) : EmitterCall → String
  | .operation registered => Stub.operationText docs registered
  | _ => ""

/-- What a call adds below the functions of the operations. -/
def blockText (docs : Bool) : EmitterCall → String
  | .page registered => Stub.pageText registered
  | .block requested => "\n" ++ Stub.blockText docs requested
  | _ => ""

end EmitterCall

namespace EmitterSession

/-- The module with all operations of the session in order, and then all its pages and blocks in
order. -/
def stubModule (docs : Bool) (session : EmitterSession) : Stub.Module where
  path := session.entity.modulePath
  entity := session.entity.key
  operations := String.join (session.calls.map (EmitterCall.operationText docs))
  blocks := String.join (session.calls.map (EmitterCall.blockText docs))

/-- The entry with all operations, pages and woven methods of the session in order, and the last of
its groups and search plans. -/
def manifestEntry (session : EmitterSession) : ManifestEntity where
  entity := session.entity.key
  label := session.entity.label
  operations := session.calls.filterMap EmitterCall.operation?
  pages := session.calls.filterMap EmitterCall.page?
  groups :=
    match (session.calls.filterMap EmitterCall.groups?).getLast? with
    | some groups => groups.members
    | none => .empty
  wovenMethods := (session.calls.filterMap EmitterCall.chain?).map HookChain.woven
  search := (session.calls.filterMap EmitterCall.plan?).getLast?

theorem stubModule_concat (docs : Bool) (session : EmitterSession) (call : EmitterCall) :
    stubModule docs { session with calls := session.calls ++ [call] } =
      (session.stubModule docs).after docs call := by
  have join (texts : List String) (last : String) :
      String.join (texts ++ [last]) = String.join texts ++ last := by
    simp [String.join]
  simp only [stubModule, List.map_append, List.map_cons, List.map_nil, join]
  cases call <;> simp [EmitterCall.operationText, EmitterCall.blockText, Stub.Module.after,
    String.append_assoc]

theorem manifestEntry_concat (session : EmitterSession) (call : EmitterCall) :
    manifestEntry { session with calls := session.calls ++ [call] } =
      session.manifestEntry.after call := by
  simp only [manifestEntry, List.filterMap_append]
  cases call with
  | block block =>
      cases block <;> simp [EmitterCall.operation?, EmitterCall.page?, EmitterCall.chain?,
        EmitterCall.plan?, EmitterCall.groups?, ManifestEntity.after, ManifestEmitter.addBlock]
  | _ => simp [EmitterCall.operation?, EmitterCall.page?, EmitterCall.chain?, EmitterCall.plan?,
      EmitterCall.groups?, ManifestEntity.after]

end EmitterSession

namespace ManifestEmitter

/-- The emitter with these sessions behind it. -/
def ofLog (schema : String) (log : SessionLog) : ManifestEmitter where
  schema := schema
  current := log.open?.map EmitterSession.manifestEntry
  entities := log.ended.map EmitterSession.manifestEntry

/-- The file with one entry for each ended session. -/
def fileOf (schema : String) (log : SessionLog) : GeneratedFile where
  path := "manifest.json"
  content := ({ schema, generator, version
                entities := log.ended.map EmitterSession.manifestEntry } : Manifest).text
  kind := .json

theorem tracks (schema : String) :
    Emitter.Tracks (ofLog schema) fun log => [fileOf schema log] where
  take {log call} fits := by
    rcases log with ⟨ended, _ | session⟩
    · cases call <;> first | contradiction | rfl
    · have collected := session.manifestEntry_concat call
      cases call with
      | beginEntity entity => contradiction
      | endEntity => simp [Emitter.take, take, endEntity, ofLog, SessionLog.after]
      | operation registered | page registered | block requested =>
          simp only [ofLog, SessionLog.after, Option.map_some, collected]
          rfl
  refuse {log call} unfit := by
    rcases log with ⟨ended, _ | session⟩ <;> cases call <;>
      first | exact absurd rfl unfit | exact ⟨_, rfl⟩
  finish {log} fits := by
    obtain ⟨ended, _⟩ := log
    obtain rfl := fits
    exact ⟨_, rfl⟩
  wait {log} unfit := by
    rcases log with ⟨ended, _ | session⟩
    · exact absurd rfl unfit
    · exact ⟨_, rfl⟩

end ManifestEmitter

namespace StubEmitter

/-- The entities that were begun. -/
def begun (log : SessionLog) : List Entity :=
  (log.ended ++ log.open?.toList).map EmitterSession.entity

/-- The emitter with these sessions behind it. -/
def ofLog (docs : Bool) (log : SessionLog) : StubEmitter where
  docs := docs
  current := log.open?.map (EmitterSession.stubModule docs)
  files := log.ended.map fun session => (session.stubModule docs).file
  modules := (begun log).foldl declare .empty

/-- The files of the ended sessions and of the directories that they stand in. -/
def filesAfter (docs : Bool) (log : SessionLog) : List GeneratedFile :=
  (log.ended.map fun session => (session.stubModule docs).file) ++
    ((begun log).foldl declare .empty).entries.map fun (directory, modules) =>
      Stub.directoryFile directory modules

theorem tracks (docs : Bool) : Emitter.Tracks (ofLog docs) (filesAfter docs) where
  take {log call} fits := by
    rcases log with ⟨ended, _ | session⟩
    · cases call with
      | beginEntity entity =>
          simp only [ofLog, begun, SessionLog.after, Option.toList, List.map_append,
            List.foldl_append]
          rfl
      | _ => contradiction
    · have collected := session.stubModule_concat docs call
      cases call with
      | beginEntity entity => contradiction
      | endEntity =>
          simp [Emitter.take, take, endEntity, ofLog, begun, SessionLog.after]
      | operation registered | page registered | block requested =>
          simp only [ofLog, begun, SessionLog.after, Option.map_some, Option.toList,
            List.map_append, List.map_cons, collected]
          rfl
  refuse {log call} unfit := by
    rcases log with ⟨ended, _ | session⟩ <;> cases call <;>
      first | exact absurd rfl unfit | exact ⟨_, rfl⟩
  finish {log} fits := by
    obtain ⟨ended, _⟩ := log
    obtain rfl := fits
    exact ⟨_, rfl⟩
  wait {log} unfit := by
    rcases log with ⟨ended, _ | session⟩
    · exact absurd rfl unfit
    · exact ⟨_, rfl⟩

/-- The modules of a directory are declared in the order in which their entities were begun. -/
theorem getD_find?_foldl_declare (modules : Dictionary (List String)) (entities : List Entity)
    (directory : String) :
    ((entities.foldl declare modules).find? directory).getD [] =
      (modules.find? directory).getD [] ++
        (entities.filter fun entity => entity.moduleDirectory == directory).map
          Entity.moduleName := by
  induction entities generalizing modules with
  | nil => simp
  | cons entity rest ih =>
      rw [List.foldl_cons, ih, declare, Dictionary.find?_insert]
      by_cases same : directory = entity.moduleDirectory
      · simp [same]
      · simp [same, Ne.symm same]

theorem entries_foldl_declare (entities : List Entity) :
    (entities.foldl declare .empty).entries =
      (directoriesOf entities).map fun directory =>
        (directory, (entities.filter fun entity => entity.moduleDirectory == directory).map
          Entity.moduleName) := by
  have listed : ∀ entry ∈ (entities.foldl declare .empty).entries,
      (entry.1, (entities.filter fun entity => entity.moduleDirectory == entry.1).map
        Entity.moduleName) = entry := by
    rintro ⟨directory, modules⟩ mem
    have declared := getD_find?_foldl_declare .empty entities directory
    rw [Dictionary.find?_of_mem_entries mem] at declared
    simpa [Dictionary.find?_empty] using declared.symm
  rw [directoriesOf, Dictionary.keys, List.map_map]
  exact ((List.map_congr_left listed).trans (List.map_id' _)).symm

/-- The directories are sorted and bear the entities that were begun. -/
theorem pairwise_directoriesOf (entities : List Entity) :
    (directoriesOf entities).Pairwise (· < ·) :=
  List.pairwise_map.mpr (entities.foldl declare .empty).ordered

end StubEmitter

/-! ## Both emitters -/

namespace Emitter

variable {ε : Type} [Emitter ε]

/-- At any time during the requests the emitter obeys the order of the calls, and when no entity is
open after them, it hands over files as described. -/
def Keeps (emitter : ε) (requests : List EmitterRequest)
    (described : List GeneratedFile → Prop) : Prop :=
  (∀ earlier, earlier <+: requests →
    Obeys (afterAll emitter earlier) (SessionLog.of earlier)) ∧
  ((SessionLog.of requests).open? = none →
    ∃ files rest, answer (afterAll emitter requests) .finish = (.ok files, rest) ∧
      described files)

theorem Tracks.keeps {state : SessionLog → ε} {files : SessionLog → List GeneratedFile}
    (tracks : Tracks state files) {requests : List EmitterRequest}
    (unfinished : Unfinished (state {}) requests) {described : List GeneratedFile → Prop}
    (descriptive : (SessionLog.of requests).open? = none →
      described (files (SessionLog.of requests))) :
    Keeps (state {}) requests described := by
  constructor
  · rintro earlier ⟨later, rfl⟩
    rw [tracks.afterAll unfinished.of_append]
    exact tracks.obeys _
  · intro closed
    rw [tracks.afterAll unfinished]
    obtain ⟨rest, finished⟩ := tracks.answer_finish closed
    exact ⟨_, rest, finished, descriptive closed⟩

/-- Whatever an emitter of stubs or of manifests is asked until a finish succeeds, requests that do
not fit are refused and change nothing, and all others succeed. For stubs, the files that are handed
over are those of the sessions in order, and then one file for each directory that a session stands
in, sorted by directory, which declares the modules of the sessions of this directory in order. For
manifests, it is one file with an entry for each session in order. -/
theorem keeps_order (docs : Bool) (schema : String) (requests : List EmitterRequest) :
    let sessions := (SessionLog.of requests).ended
    (Unfinished ({ docs } : StubEmitter) requests →
      Keeps ({ docs } : StubEmitter) requests fun files =>
        ∃ directories : List String, directories.Pairwise (· < ·) ∧
          (∀ directory, directory ∈ directories ↔
            ∃ session ∈ sessions, session.entity.moduleDirectory = directory) ∧
          files = (sessions.map fun session => (session.stubModule docs).file) ++
            directories.map fun directory => Stub.directoryFile directory
              ((sessions.filter fun session => session.entity.moduleDirectory == directory).map
                fun session => session.entity.moduleName)) ∧
    (Unfinished ({ schema } : ManifestEmitter) requests →
      Keeps ({ schema } : ManifestEmitter) requests fun files =>
        files = [{ path := "manifest.json"
                   content := ({ schema, generator := "capforge", version := "0.1.0"
                                 entities := sessions.map EmitterSession.manifestEntry } :
                                   Manifest).text
                   kind := .json }]) := by
  intro sessions
  constructor
  · intro unfinished
    refine (StubEmitter.tracks docs).keeps unfinished fun closed => ?_
    have begun : StubEmitter.begun (SessionLog.of requests) =
        sessions.map EmitterSession.entity := by
      simp [StubEmitter.begun, closed, sessions]
    refine ⟨_, StubEmitter.pairwise_directoriesOf (sessions.map EmitterSession.entity), ?_, ?_⟩
    · intro directory
      simp [StubEmitter.mem_directoriesOf_iff]
    · rw [StubEmitter.filesAfter, begun, StubEmitter.entries_foldl_declare, List.map_map]
      simp only [List.filter_map, List.map_map]
      rfl
  · intro unfinished
    exact (ManifestEmitter.tracks schema).keeps unfinished fun _ => rfl

/-- Customers as they are begun, without anything attached to them. -/
def customers : Entity := { key := ⟨"sales", "Customer"⟩, label := "Customer" }

/-- The page of the customers. -/
def customersPage : Page :=
  { entity := customers.key, name := "CustomerPage", linkedOperation := "ShowCustomer" }

/-- A page comes too early and again too late, and between begin and end customers are begun again
and finished. -/
def unrulyRequests : List EmitterRequest :=
  [.call (.page customersPage), .call (.beginEntity customers), .call (.page customersPage),
    .finish, .call (.beginEntity customers), .call .endEntity, .call (.page customersPage)]

/-- Customers are handed over once, with the page that came in time. -/
theorem keeps_order_unrulyRequests :
    let session : EmitterSession := { entity := customers, calls := [.page customersPage] }
    let stubs : StubEmitter := { docs := true }
    let manifest : ManifestEmitter := { schema := "sales" }
    session.manifestEntry.pages = [customersPage] ∧
    (∃ cause, answer (afterAll manifest (unrulyRequests.take 3)) .finish =
      (.error (.emission cause), afterAll manifest (unrulyRequests.take 3))) ∧
    (∃ rest, answer (afterAll manifest unrulyRequests) .finish =
      (.ok [{ path := "manifest.json"
              content := ({ schema := "sales", generator := "capforge", version := "0.1.0"
                            entities := [session.manifestEntry] } : Manifest).text
              kind := .json }], rest)) ∧
    ∃ files rest, answer (afterAll stubs unrulyRequests) .finish = (.ok files, rest) ∧
      (session.stubModule true).file ∈ files ∧
      Stub.directoryFile customers.moduleDirectory [customers.moduleName] ∈ files := by
  intro session stubs manifest
  have sessions : (SessionLog.of unrulyRequests).ended = [session] := rfl
  have closed : (SessionLog.of unrulyRequests).open? = none := rfl
  have stubsUnfinished : Unfinished stubs unrulyRequests :=
    ⟨nofun, nofun, nofun, fun _ => ⟨_, rfl⟩, nofun, nofun, nofun, trivial⟩
  have manifestUnfinished : Unfinished manifest unrulyRequests :=
    ⟨nofun, nofun, nofun, fun _ => ⟨_, rfl⟩, nofun, nofun, nofun, trivial⟩
  obtain ⟨stubsKept, manifestKept⟩ := keeps_order true "sales" unrulyRequests
  obtain ⟨-, stubFiles⟩ := stubsKept stubsUnfinished
  obtain ⟨obeyed, manifestFile⟩ := manifestKept manifestUnfinished
  obtain ⟨files, rest, finished, directories, -, covered, rfl⟩ := stubFiles closed
  obtain ⟨_, last, written, rfl⟩ := manifestFile closed
  rw [sessions] at finished covered written
  refine ⟨rfl, (obeyed _ (List.take_prefix 3 _) .finish).1 nofun, ⟨last, written⟩, _, rest,
    finished, ?_, ?_⟩
  · simp
  · refine List.mem_append_right _ (List.mem_map.mpr ⟨customers.moduleDirectory, ?_, ?_⟩)
    · exact (covered _).mpr ⟨session, List.mem_singleton_self _, rfl⟩
    · simp [session]

/-- Action groups of customers of which one has a member. -/
def customersGroups (kind : GroupKind) (member : String) : GroupSet :=
  (GroupSet.forEntity customers.key).register kind member

/-- The entry of a manifest does not hold the groups of a block after which there is another one. -/
theorem groups_replaced :
    let manifest : ManifestEmitter := { schema := "sales" }
    let reading := customersGroups .read "ShowCustomer"
    let creating := customersGroups .createNew "CreateCustomer"
    let requests : List EmitterRequest :=
      [.call (.beginEntity customers), .call (.block (.actionGroups reading)),
        .call (.block (.actionGroups creating)), .call .endEntity]
    Unfinished manifest requests ∧
    ∃ entry rest, answer (afterAll manifest requests) .finish =
        (.ok [{ path := "manifest.json"
                content := ({ schema := "sales", generator := "capforge", version := "0.1.0"
                              entities := [entry] } : Manifest).text
                kind := .json }], rest) ∧
      reading.members.entries = [("CUSTOMER_READ", ["ShowCustomer"])] ∧
      creating.members.entries = [("CUSTOMER_CREATENEW", ["CreateCustomer"])] ∧
      entry.groups.entries = [("CUSTOMER_CREATENEW", ["CreateCustomer"])] := by
  intro manifest reading creating requests
  refine ⟨⟨nofun, nofun, nofun, nofun, trivial⟩,
    EmitterSession.manifestEntry
      { entity := customers, calls := [.block (.actionGroups reading),
        .block (.actionGroups creating)] },
    _, rfl, ?_, ?_, ?_⟩
  all_goals decide +kernel

end Emitter

end EntitySurface
