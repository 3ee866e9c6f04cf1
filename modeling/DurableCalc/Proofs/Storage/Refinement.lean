import DurableCalc.Proofs.Storage.Acceptance
import DurableCalc.Proofs.Storage.Replacement

/-!
# A file behaves as memory does

Calls of slots on one path, reads and writes in any order, are answered as by a slot in memory that
is spared the writes that failed: a read gives the bytes of the last write that succeeded, and what
the path does not lead to stays as it is. This holds of every path that leads to a file, and of
every path that leads to nothing and goes on doing so while the missing directories on its way are
made, as every plain path does. It does not hold of a path that leaves a missing directory again by
`..`.
-/

namespace DurableCalc.FileSlot

open FileSystem

/-- A slot holds the bytes of the file that its path leads to. It holds nothing if the path leads to
nothing, whichever of the directories on its way are made. -/
def Holds (path : String) (held : Bytes) (fs : FileSystem) : Prop :=
  fs.read path = .ok held ∨
    held = [] ∧ ∀ fs', Paved path fs fs' → fs'.read path = .error .notFound

inductive Call
  | read
  | write (naming : Naming) (refusal : Option (Stage × String)) (blob : Bytes)

inductive Answer
  | read (result : Except StorageError Bytes)
  | written (result : Except StorageError Unit)
  deriving DecidableEq

def Call.perform (path : String) : Call → FileSystem → Answer × FileSystem
  | .read, fs => (.read (FileSlot.read path fs), fs)
  | .write naming refusal blob, fs =>
    match replaceThrough naming refusal path blob fs with
    | (result, fs) => (.written result, fs)

/-- Performs one call after the other, whatever comes of each. A slot on a file is nothing but its
path, so that the calls may be those of several slots. -/
def performAll (path : String) : List Call → FileSystem → List Answer × FileSystem
  | [], fs => ([], fs)
  | call :: calls, fs =>
    match call.perform path fs with
    | (answer, fs) =>
      match performAll path calls fs with
      | (answers, fs) => (answer :: answers, fs)

/-- Performs a call on another slot as well, unless it is a write that failed. -/
def echo : Call × Answer → Slot → Answer × Slot
  | (.read, _), slot => (.read slot.read, slot)
  | (.write _ _ blob, .written (.ok ())), slot =>
    match slot.write blob with
    | (result, slot) => (.written result, slot)
  | (.write _ _ _, answer), slot => (answer, slot)

def echoAll : List (Call × Answer) → Slot → List Answer × Slot
  | [], slot => ([], slot)
  | event :: events, slot =>
    match echo event slot with
    | (answer, slot) =>
      match echoAll events slot with
      | (answers, slot) => (answer :: answers, slot)

def lastWritten : List (Call × Answer) → Option Bytes
  | [] => none
  | (.write _ _ blob, .written (.ok ())) :: events => (lastWritten events).or (some blob)
  | _ :: events => lastWritten events

variable {path : String} {held blob : Bytes} {fs fs' : FileSystem} {naming : Naming}
  {refusal : Option (Stage × String)} {error : StorageError}

namespace Holds

theorem read_eq (h : Holds path held fs) : FileSlot.read path fs = .ok held := by
  rcases h with hread | ⟨rfl, hnothing⟩
  · rw [FileSlot.read, hread]
  · rw [FileSlot.read, hnothing fs .refl]

theorem of_plain (htree : fs.IsTree) (hplain : Path.Plain path)
    (hread : fs.read path = .error .notFound) : Holds path [] fs :=
  .inr ⟨rfl, fun _ => read_of_paved htree hplain hread⟩

theorem paved (h : Holds path held fs) (hpaved : Paved path fs fs') :
    Holds path held fs' ∧ fs'.read path = fs.read path ∧
      ∀ place, fs'.LeadsTo path place → fs.LeadsTo path place := by
  have hgains := hpaved.gains
  rcases h with hread | ⟨rfl, hnothing⟩
  · have hread' := hgains.read hread
    obtain ⟨target, hwalk⟩ := exists_walk_of_read hread
    have htarget : fs.LeadsTo path target := ⟨held, hwalk⟩
    refine ⟨.inl hread', hread'.trans hread.symm, fun place hleads => ?_⟩
    exact hleads.unique (hgains.leadsTo htarget) ▸ htarget
  · have hread' := hnothing fs' hpaved
    refine ⟨.inr ⟨rfl, fun fs'' hmore => hnothing fs'' (hpaved.trans hmore)⟩,
      hread'.trans (hnothing fs .refl).symm, fun place hleads => ?_⟩
    obtain ⟨contents, hsome⟩ := hleads.exists_read
    rw [hread'] at hsome
    cases hsome

theorem of_failed (h : Holds path held fs)
    (hfailed : replaceThrough naming refusal path blob fs = (.error error, fs')) :
    Holds path held fs' ∧ fs'.read path = fs.read path ∧ fs.Gains fs' ∧ Spares path fs fs' := by
  obtain ⟨level, rfl⟩ := ensureAbove_of_replaceThrough hfailed
  have hpaved : Paved path fs (fs.ensureAbove level (Path.directory path)) := .step level .refl
  obtain ⟨hholds, hread, hleads⟩ := h.paved hpaved
  exact ⟨hholds, hread, hpaved.gains, hpaved.gains.spares hleads⟩

theorem of_written (h : Holds path held fs)
    (hwritten : replaceThrough naming refusal path blob fs = (.ok (), fs')) :
    Holds path blob fs' ∧ Spares path fs fs' := by
  obtain ⟨made, target, rfl, rfl, htarget, hwalk⟩ := set_of_replaceThrough hwritten
  have hpaved : Paved path fs (fs.ensureAbove 0 (Path.directory path)) := .step 0 .refl
  have hleads := (h.paved hpaved).2.2
  exact ⟨.inl (read_of_walk hwalk),
    (hpaved.gains.spares hleads).trans (spares_set htarget hwalk)⟩

/-- One call is answered as by memory, and leaves a slot that holds what memory then holds. -/
theorem perform (h : Holds path held fs) (call : Call) :
    ∃ blob, Holds path blob (call.perform path fs).2 ∧
      Spares path fs (call.perform path fs).2 ∧
      echo (call, (call.perform path fs).1) (.memory held) =
        ((call.perform path fs).1, .memory blob) ∧
      ∀ events, (lastWritten ((call, (call.perform path fs).1) :: events)).getD held =
        (lastWritten events).getD blob := by
  cases call with
  | read =>
    refine ⟨held, h, .refl path fs, ?_, fun events => rfl⟩
    rw [Call.perform, h.read_eq]
    rfl
  | write naming refusal blob =>
    rcases hreplace : replaceThrough naming refusal path blob fs with ⟨result, fs'⟩
    simp only [Call.perform, hreplace]
    cases result with
    | error error =>
      obtain ⟨hholds, -, -, hspares⟩ := h.of_failed hreplace
      exact ⟨held, hholds, hspares, rfl, fun events => rfl⟩
    | ok done =>
      obtain ⟨hholds, hspares⟩ := h.of_written hreplace
      refine ⟨blob, hholds, hspares, rfl, fun events => ?_⟩
      rw [lastWritten]
      cases lastWritten events <;> rfl

theorem performAll (h : Holds path held fs) (calls : List Call) :
    ∃ blob, Holds path blob (performAll path calls fs).2 ∧
      Spares path fs (FileSlot.performAll path calls fs).2 ∧
      echoAll (calls.zip (FileSlot.performAll path calls fs).1) (.memory held) =
        ((FileSlot.performAll path calls fs).1, .memory blob) ∧
      (lastWritten (calls.zip (FileSlot.performAll path calls fs).1)).getD held = blob := by
  induction calls generalizing fs held with
  | nil => exact ⟨held, h, .refl path fs, rfl, rfl⟩
  | cons call calls ih =>
    obtain ⟨middle, hmiddle, hspares, hecho, hlast⟩ := h.perform call
    obtain ⟨blob, hholds, hspares', hechoes, hlast'⟩ := ih hmiddle
    refine ⟨blob, hholds, hspares.trans hspares', ?_, (hlast _).trans hlast'⟩
    simp only [FileSlot.performAll, List.zip_cons_cons, echoAll, hecho, hechoes]

end Holds

/-- Slots on one path answer as memory does that the writes which failed never reached; every other
file stays, and so does what the path leads to when one more write fails. Where the path leads to a
file or to where one may be put, a write that is not refused succeeds, unless the path of its
temporary file is too long. -/
theorem answers_as_memory {calls : List Call} {answers : List Answer} {after : FileSystem}
    (h : Holds path held fs) (hrun : performAll path calls fs = (answers, after)) :
    ∃ blob, (lastWritten (calls.zip answers)).getD held = blob ∧
      echoAll (calls.zip answers) (.memory held) = (answers, .memory blob) ∧
      FileSlot.read path after = .ok blob ∧
      Spares path fs after ∧
      (∀ naming refusal new error fs',
        replaceThrough naming refusal path new after = (.error error, fs') →
          after.Gains fs' ∧ fs'.read path = after.read path) ∧
      ∀ naming new target, after.Receives path target →
        (Text.encode (after.fromRoot (Path.directory path))).length + temporaryNameSize ≤
          pathLimit →
        ∃ fs', replaceThrough naming none path new after = (.ok (), fs') := by
  obtain ⟨blob, hholds, hspares, hecho, hlast⟩ := h.performAll calls
  rw [hrun] at hholds hspares hecho hlast
  refine ⟨blob, hlast, hecho, hholds.read_eq, hspares, ?_, ?_⟩
  · intro naming refusal new error fs' hfailed
    obtain ⟨-, hread, hgains, -⟩ := hholds.of_failed hfailed
    exact ⟨hgains, hread⟩
  · intro naming new target hreceives hlimit
    exact replaceThrough_of_receives hreceives naming new hlimit

/-- A first write is refused above a directory that is missing, a second one goes through, and a
third is refused at the last stage. -/
theorem answers_as_memory_below_missing :
    let fs := FileSystem.emptyDirectory
    let path := "sums/state.json"
    let calls : List Call := [
      .write freshNaming (some (.createDirectory 0, "refused")) [0x31], .read,
      .write freshNaming none [0x32], .read,
      .write freshNaming (some (.rename, "refused")) [0x33], .read]
    let answers : List Answer := [
      .written (.error (.createDirectory "sums" "refused")), .read (.ok []),
      .written (.ok ()), .read (.ok [0x32]),
      .written (.error (.replace path "refused")), .read (.ok [0x32])]
    let after := (performAll path calls fs).2
    Holds path [] fs ∧ performAll path calls fs = (answers, after) ∧
      ∃ blob, (lastWritten (calls.zip answers)).getD [] = blob ∧
        echoAll (calls.zip answers) (.memory []) = (answers, .memory blob) ∧
        FileSlot.read path after = .ok blob ∧
        Spares path fs after ∧
        (∀ naming refusal new error fs',
          replaceThrough naming refusal path new after = (.error error, fs') →
            after.Gains fs' ∧ fs'.read path = after.read path) ∧
        ∀ naming new target, after.Receives path target →
          (Text.encode (after.fromRoot (Path.directory path))).length + temporaryNameSize ≤
            pathLimit →
          ∃ fs', replaceThrough naming none path new after = (.ok (), fs') := by
  intro fs path calls answers after
  have hholds : Holds path [] fs :=
    .of_plain isTree_emptyDirectory (by decide +kernel) (by decide +kernel)
  have hanswers : (performAll path calls fs).1 = answers := by decide +kernel
  have hrun : performAll path calls fs = (answers, after) := by
    rw [← hanswers]
  exact ⟨hholds, hrun, answers_as_memory hholds hrun⟩

/-- Behind a missing directory, `..` leads to nothing until a write has made the directory. Then the
path leads to a file that was there before: a write that fails leaves its bytes to be read in the
slot that was empty, and one that succeeds takes their place. -/
theorem not_answers_as_memory_behind_missing :
    let fs : FileSystem := { nodes := [(["x"], .file [0x41])] }
    let path := "missing/../x"
    let failed := replaceThrough freshNaming (some (.createTemporary, "refused")) path [0x42] fs
    let written := replaceThrough freshNaming none path [0x42] fs
    fs.read path = .error .notFound ∧ FileSlot.read path fs = .ok [] ∧
      failed.1 = .error (.createTemporary "refused") ∧ FileSlot.read path failed.2 = .ok [0x41] ∧
      written.1 = .ok () ∧ fs.read "x" = .ok [0x41] ∧ written.2.read "x" = .ok [0x42] :=
  ⟨by decide +kernel, by decide +kernel, by decide +kernel, by decide +kernel, by decide +kernel,
    by decide +kernel, by decide +kernel⟩

end DurableCalc.FileSlot
