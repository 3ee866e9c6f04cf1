import DurableCalc.Proofs.Command.Names
import DurableCalc.Proofs.Plain.Carriage
import DurableCalc.Proofs.Plain.Median
import DurableCalc.Proofs.Session.Passage

/-!
# A session refines the session in direct style

Each command is followed through its own talk, step by step, and the session through one talk after
the other: from an empty slot and with nothing refused it does what the one in direct style does.
-/

namespace DurableCalc.Plain

open Event Session Talk

variable {r : Registry} {s s' : Snapshot} {state : Int} {maxCount : UInt32}

theorem fits_iff {n : Int} :
    SumProgress.fits n = true ↔ -9223372036854775808 ≤ n ∧ n ≤ 9223372036854775807 := by
  have hmin : Int64.minValue.toInt = -9223372036854775808 := by decide
  have hmax : Int64.maxValue.toInt = 9223372036854775807 := by decide
  simp only [SumProgress.fits, hmin, hmax, Bool.and_eq_true, decide_eq_true_eq]

theorem conveys_sum (h : Busy r (.sum {}) state s) :
    Conveys r s sum fun _ => Idle state := by
  refine (h.hear Step.map_ask_map).bind fun first s₁ h₁ => ?_
  refine (h₁.hear Step.map_ask_map).bind fun second s₂ h₂ => ?_
  by_cases hfits : SumProgress.fits (first.toInt + second.toInt) = true
  · rw [if_pos (fits_iff.1 hfits)]
    apply h₂.conclude
    simp [Job.next, SumProgress.next, hfits, Step.map]
  · rw [if_neg (mt fits_iff.2 hfits)]
    apply h₂.reject
    simp [Job.next, SumProgress.next, hfits, Step.map]

theorem conveys_integers (n : Nat) {p : MedianProgress} {count : UInt32}
    (h : Busy r (.median maxCount p) state s) (hcount : p.count = some count)
    (hleft : p.nextIndex.toNat + n = count.toNat) :
    Conveys r s (integers n) fun values s' =>
      ∃ q, Busy r (.median maxCount q) state s' ∧ q.count = some count ∧
        q.nextIndex.toNat = count.toNat ∧ q.values = p.values ++ values := by
  induction n generalizing s p with
  | zero => exact .pure ⟨p, h, hcount, hleft, (List.append_nil _).symm⟩
  | succ n ih =>
    have hlt : p.nextIndex.toNat < count.toNat := by omega
    have hnext : (Job.median maxCount p).next =
        (Step.ask fun line => (readInteger line).map p.push).map (.median maxCount) := by
      simp [Job.next, MedianProgress.next, hcount, hlt]
    refine (h.hear (hnext.trans Step.map_ask_map)).bind fun value s₁ h₁ => ?_
    have hindex := MedianProgress.toNat_nextIndex_push value hlt
    refine (ih h₁ hcount (by omega)).bind fun values s₂ h₂ => ?_
    obtain ⟨q, hbusy, hcount', hindex', hvalues⟩ := h₂
    exact .pure ⟨q, hbusy, hcount', hindex', by simpa [MedianProgress.push] using hvalues⟩

theorem conveys_median (h : Busy r (.median maxCount {}) state s) :
    Conveys r s (median maxCount) fun _ => Idle state := by
  refine (h.hear Step.map_ask_map).bind fun count s₁ h₁ => ?_
  refine (conveys_integers count.toNat h₁ rfl (Nat.zero_add _)).bind fun values s₂ h₂ => ?_
  obtain ⟨q, hbusy, hcount, hindex, hvalues⟩ := h₂
  apply hbusy.conclude
  have hvalues : q.values = values := hvalues
  simp [Job.next, MedianProgress.next, hcount, hindex, Step.map, hvalues, median_of, text_eq_half]

theorem conveys_draws (n : Nat) {p : RandomProgress} {count : UInt32}
    (h : Busy r (.randomSequence maxCount p) state s) (hcount : p.count = some count)
    (hleft : p.nextIndex.toNat + n = count.toNat) :
    Conveys r s (draws n state) Idle := by
  induction n generalizing s p state with
  | zero =>
    have hnot : ¬ p.nextIndex < count := by
      rw [UInt32.lt_iff_toNat_lt]
      omega
    obtain ⟨s', hact, hidle⟩ := h.finish
      (by simp [Job.next, RandomProgress.next, hcount, hnot, Step.map])
    exact .silent hact (.pure hidle)
  | succ n ih =>
    have hlt : p.nextIndex < count := by
      rw [UInt32.lt_iff_toNat_lt]
      omega
    have hindex := RandomProgress.toNat_add_one hlt
    have hnext : (Job.randomSequence maxCount p).next =
        .draw (.randomSequence maxCount { p with nextIndex := p.nextIndex + 1 }) := by
      simp [Job.next, RandomProgress.next, hcount, hlt, Step.map]
    obtain ⟨s', hact, hbusy⟩ := h.draw hnext
    have hsay : Conveys r s (Talk.say (Text.decimal state)) fun _ =>
        Busy r (.randomSequence maxCount { p with nextIndex := p.nextIndex + 1 })
          (advance state) := .say hact hbusy
    refine hsay.bind fun _ s₁ h₁ => ih h₁ hcount ?_
    simp only [hindex]
    omega

theorem conveys_randomSequence (h : Busy r (.randomSequence maxCount {}) state s) :
    Conveys r s (randomSequence maxCount state) Idle := by
  refine (h.hear Step.map_ask_map).bind fun count s₁ h₁ => ?_
  exact conveys_draws count.toNat h₁ rfl (Nat.zero_add _)

theorem block_standard (query : String) :
    Guide.standard.block query = block (Text.fold (Text.trim query)) := by
  unfold Guide.block Topic.answersTo
  generalize Text.fold (Text.trim query) = key
  have hfold : ∀ own ∈ ["sum", "add", "median", "random-sequence", "rand"],
      Text.fold (Text.fold own) = own := by decide
  simp only [List.forall_mem_cons] at hfold
  by_cases hkey : key ∈ ["sum", "add", "median", "random-sequence", "rand"]
  · simp only [List.mem_cons, List.not_mem_nil, or_false] at hkey
    rcases hkey with rfl | rfl | rfl | rfl | rfl <;>
      simp [Guide.standard, Topic.of, Command.description, Description.names, Kind.commandName,
        hfold, block, Guide.leaveLine, leaveHelp]
  · simp only [List.mem_cons, List.not_mem_nil, not_or, or_false, ← ne_eq] at hkey
    obtain ⟨hsum, hadd, hmedian, hrandom, hrand⟩ := hkey
    have hfallback : Guide.standard.fallback = ["No such command", listing, leaveHelp] := by decide
    simp [Guide.standard, Topic.of, Command.description, Description.names, Kind.commandName,
      hfold, block, hsum, hadd, hmedian, hrandom, hrand, hsum.symm, hadd.symm, hmedian.symm,
      hrandom.symm, hrand.symm]
    exact hfallback

theorem conveys_block (n : Nat) {p : HelpProgress} {topic : String}
    (h : Busy r (.help .standard p) state s) (hintro : p.introCursor.toNat = 3)
    (htopic : p.topic = some topic) (hstay : Text.trim topic ≠ Guide.leaveKeyword)
    (hleft : p.topicCursor.toNat + n = (Guide.standard.block topic).length) :
    Conveys r s (sayAll ((Guide.standard.block topic).drop p.topicCursor.toNat)) fun _ =>
      Busy r (.help .standard { p with topic := none, topicCursor := 0 }) state := by
  induction n generalizing s p with
  | zero =>
    obtain ⟨s', hact, hbusy⟩ := h.save (Job.next_help_save hintro htopic hstay hleft)
    rw [List.drop_of_length_le (by omega)]
    exact .silent hact (.pure hbusy)
  | succ n ih =>
    have hlt : p.topicCursor.toNat < (Guide.standard.block topic).length := by omega
    have hblock := Guide.standard.length_block_le topic
    have hcursor : (p.topicCursor + 1).toNat = p.topicCursor.toNat + 1 :=
      HelpProgress.toNat_add_one (by omega)
    obtain ⟨s', hact, hbusy⟩ := h.say (Job.next_help_line hintro htopic hstay hlt)
    have hlater := ih hbusy hintro htopic (by simp only [hcursor]; omega)
    rw [hcursor] at hlater
    rw [List.drop_eq_getElem_cons hlt]
    exact hlater.sayAll_cons hact

theorem carries_topics (lines : List String) {p : HelpProgress}
    (h : Busy r (.help .standard p) state s) (hintro : p.introCursor.toNat = 3)
    (htopic : p.topic = none) (hcursor : p.topicCursor = 0) :
    Carries r s lines (answerTopics lines) fun _ => Idle state := by
  have hask : (Job.help .standard p).next = _ := Job.next_help_ask hintro htopic hcursor
  -- After a topic the progress is back where it was: behind the introduction and without a topic.
  induction lines generalizing s p with
  | nil => exact .stops rfl ⟨[], _, s, .refl s, (Halt.stall h.1 hask).ends, rfl, rfl⟩ rfl
  | cons line rest ih =>
    have hdoes : (Job.help .standard p).next.Does s.rngState [.read line]
        (.help .standard { p with topic := some line }) s.rngState := hask ▸ .ask rfl
    obtain ⟨s₁, hact, hbusy⟩ := h.act hdoes
    have hbusy : Busy r (.help .standard { p with topic := some line }) state s₁ :=
      ⟨hbusy.1, hbusy.2.trans h.2⟩
    rw [answerTopics]
    split
    · rename_i hleave
      obtain ⟨s₂, hact', hidle⟩ := hbusy.finish (Job.next_help_finished hintro rfl hleave
        (by simp [hcursor]))
      exact .gives rfl (.cons hact (.cons hact' (.refl s₂))) rfl rfl hidle
    · rename_i hstay
      have hzero : p.topicCursor.toNat = 0 := by simp [hcursor]
      have hblock := conveys_block (Guide.standard.block line).length hbusy hintro rfl hstay
        (by simp only [hzero, Nat.zero_add])
      simp only [hzero, List.drop_zero, block_standard] at hblock
      obtain ⟨trace, s₂, hcourse, hnone, hwritten, hbusy'⟩ := hblock.course_of_sayAll
      have hlater := (ih hbusy' hintro rfl rfl (Job.next_help_ask hintro rfl rfl)).prepend hcourse
      rw [hnone, hwritten] at hlater
      exact hlater.read hact

theorem conveys_help (h : Busy r (.help .standard {}) state s) :
    Conveys r s help fun _ => Idle state := by
  have hnext₁ : (Job.help .standard {}).next =
      .tell "Enter a command name to see its help" (.help .standard { introCursor := 1 }) := rfl
  have hnext₂ : (Job.help .standard { introCursor := 1 }).next =
      .tell listing (.help .standard { introCursor := 2 }) := rfl
  have hnext₃ : (Job.help .standard { introCursor := 2 }).next =
      .tell leaveHelp (.help .standard { introCursor := 3 }) := rfl
  obtain ⟨s₁, hact₁, h₁⟩ := h.say hnext₁
  obtain ⟨s₂, hact₂, h₂⟩ := h₁.say hnext₂
  obtain ⟨s₃, hact₃, h₃⟩ := h₂.say hnext₃
  have hintro : Conveys r s (sayAll intro) fun _ =>
      Busy r (.help .standard { introCursor := 3 }) state := by
    refine .sayAll_cons hact₁ (.sayAll_cons hact₂ (.sayAll_cons hact₃ ?_))
    exact .pure h₃
  exact hintro.bind fun _ s' h' lines => carries_topics lines h' rfl rfl rfl

/-- A line that calls a command sets its job to work from the beginning. -/
theorem busy_of_called (maxCount : UInt32) {k : Kind} {line : String} (hidle : Idle state s)
    (hexit : Text.fold (Text.trim line) ≠ exitKeyword)
    (hcalled : Kind.called (Text.fold (Text.trim line)) = some k) :
    Busy (.standard maxCount) (.start (.standard maxCount k) .fresh) state
      { s with pendingInput := some line } := by
  obtain ⟨-, hcommand, hrng⟩ := hidle
  refine ⟨⟨line, rfl, demand_eq_work_iff.2 ⟨hexit, ?_, ?_, ?_⟩⟩, hrng⟩
  · rw [Registry.lookup_standard, Text.trim_trim, hcalled, Job.command_start]
    rfl
  · intro p hp
    rw [hcommand] at hp
    cases hp
  · rw [Job.command_start]
    exact (Job.start_of_command_none hcommand).symm

theorem act_of_not_called (maxCount : UInt32) {line : String} (hidle : Idle state s)
    (hexit : Text.fold (Text.trim line) ≠ exitKeyword)
    (hcalled : Kind.called (Text.fold (Text.trim line)) = none) :
    ∃ s', Act (.standard maxCount) { s with pendingInput := some line } [.wrote unknownMessage] s' ∧
      Idle state s' := by
  obtain ⟨-, hcommand, hrng⟩ := hidle
  have hlookup : (Registry.standard maxCount).lookup (Text.trim line) = none := by
    rw [Registry.lookup_standard, Text.trim_trim, hcalled]
    rfl
  have hdemand : demand (.standard maxCount) { s with pendingInput := some line } line =
      .unknown (Text.trim line) := by
    simp [demand, hexit, hlookup, hcommand]
  exact ⟨_, .unknown rfl hdemand, rfl, rfl, hrng⟩

theorem conveys_command {line : String} (hidle : Idle state s)
    (hexit : Text.fold (Text.trim line) ≠ exitKeyword) :
    Conveys (.standard maxCount) { s with pendingInput := some line }
      (command maxCount state (Text.fold (Text.trim line))) Idle := by
  have hbusy {k : Kind} := busy_of_called maxCount (k := k) hidle hexit
  have hunknown := act_of_not_called maxCount hidle hexit
  generalize Text.fold (Text.trim line) = name at hbusy hunknown ⊢
  unfold command
  split
  · rename_i hname
    have hcalled : Kind.called name = some .sum := by
      rcases hname with rfl | rfl <;> decide
    exact (conveys_sum (hbusy hcalled)).bind fun _ _ h => .pure h
  split
  · rename_i hname
    have hcalled : Kind.called name = some .median := by
      subst hname
      decide
    exact (conveys_median (hbusy hcalled)).bind fun _ _ h => .pure h
  split
  · rename_i hname
    have hcalled : Kind.called name = some .randomSequence := by
      rcases hname with rfl | rfl <;> decide
    exact conveys_randomSequence (hbusy hcalled)
  split
  · rename_i hname
    have hcalled : Kind.called name = some .help := by
      subst hname
      decide
    exact (conveys_help (hbusy hcalled)).bind fun _ _ h => .pure h
  · rename_i hsum hmedian hrandom hhelp
    have hcalled : Kind.called name = none := by
      simp [Kind.called, hsum, hmedian, hrandom, hhelp]
    obtain ⟨s', hact, hidle'⟩ := hunknown hcalled
    have hsay : Conveys (.standard maxCount) { s with pendingInput := some line }
        (Talk.say unknownMessage) fun _ => Idle state := .say hact hidle'
    exact hsay.bind fun _ _ h => .pure h

/-- From an idle snapshot a session completes as a session in direct style does that has a talk for
every command. -/
theorem completes_serve {talk : Int → String → Talk Int}
    (htalk : ∀ {state s line}, Idle state s → Text.fold (Text.trim line) ≠ exitKeyword →
      Conveys (.standard maxCount) { s with pendingInput := some line }
        (talk state (Text.fold (Text.trim line))) Idle)
    (hidle : Idle state s) (lines : List String) :
    ∃ trace, Completes (.standard maxCount) s lines trace (serve talk state lines).result
        (serve talk state lines).rest ∧
      linesWritten trace = (serve talk state lines).written := by
  fun_induction serve talk state lines generalizing s with
  | case1 state => exact ⟨_, ⟨[], _, s, .refl s, (Halt.dry hidle.1).ends, rfl, rfl⟩, rfl⟩
  | case2 state line rest hexit =>
    have htake : Course (.standard maxCount) s _ _ := .cons (.take hidle.1 line) (.refl _)
    have hdemand : demand (.standard maxCount) { s with pendingInput := some line } line =
        .leave := by
      simp [demand, exitKeyword, hexit]
    exact ⟨_, ⟨_, _, _, htake, (Halt.leave rfl hdemand).ends, rfl, rfl⟩, rfl⟩
  | case3 state line rest hexit a error =>
    rename_i hresult
    have htake : Course (.standard maxCount) s _ _ := .cons (.take hidle.1 line) (.refl _)
    cases htalk hidle hexit rest with
    | stops hresult' hcomplete hwritten =>
      obtain rfl := Except.error.inj (hresult'.symm.trans hresult)
      exact ⟨_, hcomplete.prepend htake, hwritten⟩
    | gives hresult' => cases hresult'.symm.trans hresult
  | case4 state line rest hexit a later =>
    rename_i hresult ih
    have htake : Course (.standard maxCount) s _ _ := .cons (.take hidle.1 line) (.refl _)
    cases htalk hidle hexit rest with
    | stops hresult' => cases hresult'.symm.trans hresult
    | gives hresult' hcourse hlines hwritten hidle' =>
      obtain rfl := Except.ok.inj (hresult'.symm.trans hresult)
      obtain ⟨trace, hcomplete, hwritten'⟩ := ih hidle'
      have hall := (hcomplete.prepend hcourse).prepend htake
      rw [← hlines] at hall
      refine ⟨_, hall, ?_⟩
      simp only [linesWritten_append, hwritten, hwritten', Answer.after]
      rfl

def Answer.ofRun (out : Except Error Unit × Rehearsal) : Answer Unit :=
  ⟨linesWritten out.2.events, out.2.lines, out.1⟩

/-- A session refines the session in direct style: on any lines, from an empty slot and with nothing
refused, it writes the same lines, leaves the same lines and comes to the same result. -/
theorem run_eq_session (maxCount : UInt32) (lines : List String) :
    Answer.ofRun (Session.run (.standard maxCount) (Rehearsal.opening [] lines)) =
      Plain.session maxCount 420 lines := by
  have hidle : Idle 420 .fresh := ⟨rfl, rfl, by decide⟩
  obtain ⟨trace, hcomplete, hfollows⟩ := run_opening (.standard maxCount) lines
    Snapshot.restore_nil
  obtain ⟨trace', hcomplete', hwritten⟩ := completes_serve conveys_command hidle lines
  obtain ⟨rfl, hresult, hrest⟩ := hcomplete.unique hcomplete'
  have hevents : (run (.standard maxCount) (Rehearsal.opening [] lines)).2.events = trace :=
    hfollows.events_eq
  rw [Answer.ofRun, hevents, hwritten, hrest, hresult]
  rfl

example : (Plain.session 5 420 ["rand", "2", "exit"]).written = ["420", "7058940"] := by cbv

end DurableCalc.Plain
