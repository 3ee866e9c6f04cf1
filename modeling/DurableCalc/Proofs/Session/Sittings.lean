import DurableCalc.Proofs.Session.Ahead
import DurableCalc.Proofs.Session.Passage
import DurableCalc.Proofs.Storage.ReadBack

/-!
# An input in several sittings

An input may be handed over in parts, each of them whole lines but the last, to one session after
the other on the same slot. A session that has used its part up leaves in the slot all that the next
one needs, so that together they do what one session does on the whole input: the same result, the
same output and the same slot. This holds of every slot, also of one that refuses, and of every
input, also of one that is not UTF-8.
-/

namespace DurableCalc

open Event

def Snapshot.Kept (s : Snapshot) (v : Vault) : Prop :=
  ∃ blob, v.load = .ok blob ∧ Snapshot.restore blob = .ok s

namespace Session

variable {r : Registry} {s : Snapshot} {v : Vault} {c c' : Checkpointer} {k k' : Option Job}
  {d d' : Desk} {front later : Bytes}

/-- A session that goes on can be taken up again from the slot. -/
theorem kept_of_going (hkept : c.snapshot.Kept d.vault) (hsettled : Settled r c.snapshot k)
    (h : Machine.carryOut (next r c.snapshot k) c d = .going c' k' d') :
    c'.snapshot.Kept d'.vault ∧ Settled r c'.snapshot k' := by
  rw [next_of_settled hsettled] at h
  obtain ⟨⟨visible, hdoes⟩, hstore⟩ := Desk.stored_of_going h
  obtain ⟨hact, hsettled'⟩ := act_of_does hdoes
  obtain ⟨blob, hload, hrestore⟩ := hkept
  have hfault := hact.fault? (Snapshot.fault?_of_restore hrestore)
  exact ⟨⟨_, Vault.load_store hload hstore, Snapshot.restore_encode hfault⟩, hsettled'⟩

/-- A session blames the end of the input only where it has come to it. -/
theorem eq_of_ends_endOfInput {tail : List Event} {rest : List String}
    (h : (next r s none).Ends tail (.error .endOfInput) rest) : tail = [.endOfInput] := by
  cases halt_of_ends h <;> rfl

structure Waits (r : Registry) (s : Snapshot) (d : Desk) : Prop where
  asks : ∃ accept, next r s none = .ask accept
  unread_eq : d.terminal.source.unread = []
  kept : s.Kept d.vault

/-- Two sessions with the same snapshot make the same move, unless the first waits for input. -/
theorem abreast_of_not_waits (h : d.Ahead front later d') (hsnapshot : c'.snapshot = c.snapshot)
    (hsettled : Settled r c.snapshot k) (hsettled' : Settled r c.snapshot k')
    (hkept : c.snapshot.Kept d.vault) (hwaits : ¬ Waits r c.snapshot d) :
    Desk.Abreast front later (Machine.carryOut (next r c.snapshot k) c d)
      (Machine.carryOut (next r c'.snapshot k') c' d') := by
  rw [hsnapshot, next_of_settled hsettled, next_of_settled hsettled']
  apply h.carryOut c c' eq_of_ends_endOfInput
  intro accept hask hnil
  exact hwaits ⟨⟨accept, hask⟩, hnil, hkept⟩

theorem over_of_waits (hsettled : Settled r c.snapshot k) (hwaits : Waits r c.snapshot d)
    (hbroken : d.terminal.source.broken = false) :
    Machine.carryOut (next r c.snapshot k) c d = .over (.error .endOfInput) c d := by
  obtain ⟨accept, hask⟩ := hwaits.asks
  rw [next_of_settled hsettled, hask]
  exact Desk.carryOut_dry hbroken hwaits.unread_eq accept c

/-- Two sessions with the same snapshot, the second on a desk that is ahead: they come to the same,
or the first waits for input where the second passes a desk that is ahead of its desk. -/
theorem run_ahead (h : d.Ahead front later d') (hsnapshot : c'.snapshot = c.snapshot)
    (hsettled : Settled r c.snapshot k) (hsettled' : Settled r c.snapshot k')
    (hkept : c.snapshot.Kept d.vault) :
    let left := (machine r).run c k d
    let right := (machine r).run c' k' d'
    Desk.Alike front later (left.1, left.2.2) (right.1, right.2.2) ∨
      left.1 = .error .endOfInput ∧ ∃ c₁ k₁ d₁, right = (machine r).run c₁ k₁ d₁ ∧
        Settled r c₁.snapshot k₁ ∧ Waits r c₁.snapshot left.2.2 ∧
        left.2.2.Ahead front later d₁ := by
  -- Both take one move at a time. The snapshot that both have stands for either control state.
  fun_induction Machine.run (machine r) c k d generalizing c' k' d' with
  | case1 c k d result c₁ d₁ hover =>
    have hmove : Machine.carryOut (next r c.snapshot k) c d = .over result c₁ d₁ := hover
    by_cases hwaits : Waits r c.snapshot d
    · right
      rw [over_of_waits hsettled hwaits h.broken_eq] at hmove
      cases hmove
      exact ⟨rfl, c', k', d', rfl, hsnapshot ▸ hsettled', hsnapshot ▸ hwaits, h⟩
    · left
      have habreast := abreast_of_not_waits h hsnapshot hsettled hsettled' hkept hwaits
      rw [hmove] at habreast
      generalize hturn : Machine.carryOut (next r c'.snapshot k') c' d' = turn at habreast
      cases habreast with
      | «over» hresult hahead =>
        rw [Machine.run_over hturn]
        exact .intro hresult hahead
  | case2 c k d c₁ k₁ d₁ hgoing ih =>
    have hmove : Machine.carryOut (next r c.snapshot k) c d = .going c₁ k₁ d₁ := hgoing
    obtain ⟨hkept₁, hsettled₁⟩ := kept_of_going hkept hsettled hmove
    have hwaits : ¬ Waits r c.snapshot d := by
      intro hwaits
      rw [over_of_waits hsettled hwaits h.broken_eq] at hmove
      cases hmove
    have habreast := abreast_of_not_waits h hsnapshot hsettled hsettled' hkept hwaits
    rw [hmove] at habreast
    generalize hturn : Machine.carryOut (next r c'.snapshot k') c' d' = turn at habreast
    cases habreast with
    | @going _ c₂ _ _ d₂ hsnapshot₁ hahead =>
      have hright : (machine r).run c' k' d' = (machine r).run c₂ k₁ d₂ := Machine.run_going hturn
      rw [hright]
      exact ih hahead hsnapshot₁ hsettled₁ hsettled₁ hkept₁

theorem run_ahead_nil (h : d.Ahead front [] d') (hsnapshot : c'.snapshot = c.snapshot)
    (hsettled : Settled r c.snapshot k) (hsettled' : Settled r c.snapshot k')
    (hkept : c.snapshot.Kept d.vault) :
    let left := (machine r).run c k d
    let right := (machine r).run c' k' d'
    right.1 = left.1 ∧ left.2.2.Ahead front [] right.2.2 := by
  intro left right
  rcases run_ahead h hsnapshot hsettled hsettled' hkept with
    halike | ⟨hleft, c₁, k₁, d₁, hright, hsettled₁, hwaits, hahead⟩
  · obtain ⟨hresult, -, hahead⟩ := Desk.alike_iff.1 halike
    exact ⟨hresult, hahead⟩
  · have hunread : d₁.terminal.source = left.2.2.terminal.source := by
      rw [hahead.source_eq, List.append_nil]
    have hwaits₁ : Waits r c₁.snapshot d₁ :=
      ⟨hwaits.asks, hunread ▸ hwaits.unread_eq, hahead.vault_eq ▸ hwaits.kept⟩
    have hover := over_of_waits hsettled₁ hwaits₁ (hunread ▸ hahead.broken_eq)
    have hright' : right = (.error .endOfInput, c₁, d₁) := hright.trans (Machine.run_over hover)
    rw [hright']
    exact ⟨hleft.symm, hahead⟩

theorem load_opening (v : Vault) (input : Bytes) :
    World.load (Desk.opening v input) = (v.load.mapError .storage, Desk.opening v input) := rfl

theorem resume_of_kept (hkept : s.Kept v) : ∃ c : Checkpointer, c.snapshot = s ∧ ∀ input,
    Checkpointer.resume (Desk.opening v input) =
      (.ok c, (Desk.opening v input).note c.startEntry) := by
  obtain ⟨blob, hload, hrestore⟩ := hkept
  rw [← snapshot_ofBlob] at hrestore
  obtain ⟨c, hblob, hsnapshot⟩ := exists_of_map_eq_ok hrestore
  refine ⟨c, hsnapshot, fun input => ?_⟩
  simp only [Checkpointer.resume_eq, load_opening, hload, Except.mapError, hblob]
  rfl

/-- A vault has the blob of a snapshot, or a session on it fails at once on every input. -/
theorem kept_or_fails (r : Registry) (v : Vault) : (∃ s : Snapshot, s.Kept v) ∨
    ∃ error, error ≠ .endOfInput ∧ ∀ input,
      run r (Desk.opening v input) = (.error error, Desk.opening v input) := by
  cases hload : v.load with
  | error error =>
    refine .inr ⟨.storage error, by simp, fun input => ?_⟩
    simp only [run_eq, Checkpointer.resume_eq, load_opening, hload, Except.mapError]
  | ok blob =>
    cases hblob : Checkpointer.ofBlob blob with
    | error error =>
      refine .inr ⟨.snapshot (.decode error), by simp, fun input => ?_⟩
      simp only [run_eq, Checkpointer.resume_eq, load_opening, hload, Except.mapError, hblob]
    | ok c =>
      refine .inl ⟨c.snapshot, blob, hload, ?_⟩
      rw [← snapshot_ofBlob, hblob]
      rfl

/-- A session on whole lines and more comes to what a session on the lines comes to. If that one has
come to the end of its input, it comes to what a session on the rest, and on the slot that the
first one has left, comes to. -/
theorem run_append (r : Registry) (v : Vault) {part : Bytes} (hlines : WholeLines part)
    (later : Bytes) :
    let first := run r (Desk.opening v part)
    let whole := run r (Desk.opening v (part ++ later))
    Desk.Alike [] later first whole ∨
      first.1 = .error .endOfInput ∧
        let rest := run r (Desk.opening first.2.vault later)
        whole.1 = rest.1 ∧ rest.2.Ahead first.2.output [] whole.2 := by
  intro first whole
  have hopening := Desk.ahead_opening v (.inr hlines : later = [] ∨ WholeLines part)
  have hidle (s : Snapshot) : Settled r s none := trivial
  rcases kept_or_fails r v with ⟨s, hkept⟩ | ⟨error, herror, hfails⟩
  · obtain ⟨c, rfl, hresume⟩ := resume_of_kept hkept
    have hfirst : first = _ := run_of_resume (hresume part)
    have hwhole : whole = _ := run_of_resume (hresume (part ++ later))
    rw [hfirst, hwhole]
    have hahead := hopening.note c.startEntry c.startEntry
    refine (run_ahead hahead rfl (hidle _) (hidle _) hkept).imp_right ?_
    rintro ⟨hended, c₁, k₁, d₁, hright, hsettled, hwaits, hahead₁⟩
    refine ⟨hended, ?_⟩
    intro rest
    obtain ⟨c₂, hsnapshot, hresume₂⟩ := resume_of_kept hwaits.kept
    have hrest : rest = _ := run_of_resume (hresume₂ later)
    rw [hright, hrest]
    have hagain := hahead₁.opening hwaits.unread_eq c₂.startEntry
    exact run_ahead_nil hagain hsnapshot.symm (hidle _) (hsnapshot ▸ hsettled)
      (hsnapshot ▸ hwaits.kept)
  · have hfirst : first = _ := hfails part
    have hwhole : whole = _ := hfails (part ++ later)
    rw [hfirst, hwhole]
    exact .inl (.intro (by simpa using herror) hopening)

/-- What comes of one session or of several: the result of the last, the output of all and the slot
that they leave. -/
structure Upshot where
  result : Except Error Unit
  output : Bytes
  vault : Vault

def Upshot.behind (front : Bytes) (u : Upshot) : Upshot :=
  { u with output := front ++ u.output }

def upshot (final : Except Error Unit × Desk) : Upshot where
  result := final.1
  output := final.2.output
  vault := final.2.vault

/-- Hands an input over in parts, each to a session of its own, up to the first part in which the
session does not end by the end of its input. -/
def sittings (r : Registry) (v : Vault) : List Bytes → Upshot
  | [] => { result := .ok (), output := [], vault := v }
  | part :: parts =>
    let first := upshot (runToEnd r (Desk.opening v part))
    match (run r (Desk.opening v part)).1 with
    | .error .endOfInput => (sittings r first.vault parts).behind first.output
    | _ => first

section RunToEnd

variable {ω : Type} [World ω] {w : ω}

theorem runToEnd_of_endOfInput (h : (run r w).1 = .error .endOfInput) :
    runToEnd r w = (.ok (), World.note closedEntry (run r w).2) := by
  rw [runToEnd_eq]
  generalize run r w = final at h ⊢
  obtain ⟨result, w'⟩ := final
  obtain rfl : result = .error .endOfInput := h
  rfl

theorem runToEnd_of_ne (h : (run r w).1 ≠ .error .endOfInput) : runToEnd r w = run r w := by
  rw [runToEnd_eq]
  generalize run r w = final at h ⊢
  split
  · exact absurd rfl h
  · rfl

end RunToEnd

variable {part : Bytes} {parts : List Bytes}

theorem sittings_of_endOfInput (h : (run r (Desk.opening v part)).1 = .error .endOfInput) :
    sittings r v (part :: parts) =
      (sittings r (run r (Desk.opening v part)).2.vault parts).behind
        (run r (Desk.opening v part)).2.output := by
  simp only [sittings, h, runToEnd_of_endOfInput h]
  rfl

theorem sittings_of_ne (h : (run r (Desk.opening v part)).1 ≠ .error .endOfInput) :
    sittings r v (part :: parts) = upshot (run r (Desk.opening v part)) := by
  simp only [sittings, runToEnd_of_ne h]

theorem sittings_singleton (r : Registry) (v : Vault) (part : Bytes) :
    sittings r v [part] = upshot (runToEnd r (Desk.opening v part)) := by
  by_cases hended : (run r (Desk.opening v part)).1 = .error .endOfInput
  · rw [sittings_of_endOfInput hended, runToEnd_of_endOfInput hended]
    exact congrArg (Upshot.mk (.ok ()) · _) (List.append_nil _)
  · rw [sittings_of_ne hended, runToEnd_of_ne hended]

theorem upshot_runToEnd {d d' : Desk} (hresult : (run r d').1 = (run r d).1)
    (hahead : (run r d).2.Ahead front later (run r d').2) :
    upshot (runToEnd r d') = (upshot (runToEnd r d)).behind front := by
  by_cases hended : (run r d).1 = .error .endOfInput
  · rw [runToEnd_of_endOfInput hended, runToEnd_of_endOfInput (hresult.trans hended)]
    exact congrArg₂ (Upshot.mk (.ok ())) hahead.output_eq hahead.vault_eq
  · rw [runToEnd_of_ne hended, runToEnd_of_ne (hresult ▸ hended)]
    simp only [upshot, Upshot.behind, hresult, hahead.output_eq, hahead.vault_eq]

/-- An input may be cut behind any of its lines: sessions on its parts, up to the first that does
not end by the end of its part, come to the same as one session on all of it. A session that comes
to the end of its input ends well, and every other result is passed on. -/
theorem sittings_eq_runToEnd (r : Registry) (v : Vault) (parts : List Bytes) (last : Bytes)
    (hlines : ∀ part ∈ parts, WholeLines part) :
    sittings r v (parts ++ [last]) =
        upshot (runToEnd r (Desk.opening v (parts.flatten ++ last))) ∧
      ∀ d : Desk, ((run r d).1 = .error .endOfInput → (runToEnd r d).1 = .ok ()) ∧
        ((run r d).1 ≠ .error .endOfInput → (runToEnd r d).1 = (run r d).1) := by
  refine ⟨?_, fun d => ⟨?_, ?_⟩⟩
  · induction parts generalizing v with
    | nil => exact sittings_singleton r v last
    | cons part parts ih =>
      have hlater := ih (run r (Desk.opening v part)).2.vault fun other hother =>
        hlines other (List.mem_cons_of_mem part hother)
      have hcut := run_append r v (hlines part List.mem_cons_self) (parts.flatten ++ last)
      rw [List.flatten_cons, List.append_assoc, List.cons_append]
      rcases hcut with halike | ⟨hended, hresult, hahead⟩
      · obtain ⟨hresult, hne, hahead⟩ := Desk.alike_iff.1 halike
        rw [upshot_runToEnd hresult hahead, runToEnd_of_ne hne, sittings_of_ne hne]
        rfl
      · rw [upshot_runToEnd hresult hahead, sittings_of_endOfInput hended, hlater]
  · intro hended
    rw [runToEnd_of_endOfInput hended]
  · intro hne
    rw [runToEnd_of_ne hne]

/-- An input for `sum`, cut behind the name of the command and behind its first operand, with an
empty part between the two. -/
theorem sittings_eq_runToEnd_sum :
    let parts := [Text.encode "sum\n", [], Text.encode "2\n"]
    let last := Text.encode "3\nexit\n"
    let r := Registry.standard 5
    (∀ part ∈ parts, WholeLines part) ∧
      sittings r {} (parts ++ [last]) =
        upshot (runToEnd r (Desk.opening {} (parts.flatten ++ last))) ∧
      ∀ d : Desk, ((run r d).1 = .error .endOfInput → (runToEnd r d).1 = .ok ()) ∧
        ((run r d).1 ≠ .error .endOfInput → (runToEnd r d).1 = (run r d).1) := by
  intro parts last r
  have hlines : ∀ part ∈ parts, WholeLines part := by
    simp only [parts, List.mem_cons, List.not_mem_nil, or_false]
    rintro part (rfl | rfl | rfl)
    · exact .inr rfl
    · exact .inl rfl
    · exact .inr rfl
  exact ⟨hlines, sittings_eq_runToEnd r {} parts last hlines⟩

end Session

end DurableCalc
