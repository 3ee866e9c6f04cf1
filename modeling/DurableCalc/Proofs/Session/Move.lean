import DurableCalc.Session.Basic
import DurableCalc.Session.Rehearsal
import DurableCalc.Proofs.Session.Trace

/-!
# Moves without a world

What a move of a machine comes to, world apart: it goes on from a snapshot, it ends, or a refused
call breaks it off. The line that is read decides between going on and ending, and where to.
-/

namespace DurableCalc

inductive Fault
  | call (moment : Moment) (reason : String)
  | store (reason : String)

def Fault.error : Fault → Error
  | .call _ reason => .channel (.refused reason)
  | .store reason => .storage (.refused reason)

inductive Fault.OnRead : Fault → List Event → Prop
  | before {reason : String} : OnRead (.call .before reason) [.readRefused]
  | after {reason : String} (line : String) :
      OnRead (.call .after reason) [.read line, .readRefused]
  | dry {reason : String} : OnRead (.call .after reason) [.endOfInput, .readRefused]

inductive Fault.OnWrite (line : String) : Fault → List Event → Prop
  | before {reason : String} : OnWrite line (.call .before reason) [.writeRefused]
  | after {reason : String} : OnWrite line (.call .after reason) [.wrote line, .writeRefused]

namespace Move

/-- What a move reads or writes before it saves a snapshot and goes on. -/
inductive Does : Move σ → List Event → Snapshot → σ → Prop
  | ask {accept : String → Except Error (Snapshot × σ)} {line : String} {s : Snapshot} {k : σ}
      (haccept : accept line = .ok (s, k)) : Does (.ask accept) [.read line] s k
  | tell {entries : List Log.Entry} {line : String} {s : Snapshot} {k : σ} :
      Does (.tell entries line s k) [.wrote line] s k
  | save {s : Snapshot} {k : σ} : Does (.save s k) [] s k

/-- How a move ends by itself: what is seen of it, its result, and the lines that are left. -/
inductive Ends : Move σ → List Event → Except Error Unit → List String → Prop
  | dry {accept : String → Except Error (Snapshot × σ)} :
      Ends (.ask accept) [.endOfInput] (.error .endOfInput) []
  | misread {accept : String → Except Error (Snapshot × σ)} {line : String} {error : Error}
      {rest : List String} (haccept : accept line = .error error) :
      Ends (.ask accept) [.read line] (.error error) rest
  | conclude {line : String} {rest : List String} :
      Ends (.conclude line) [.wrote line] (.ok ()) rest
  | leave {rest : List String} : Ends .leave [.saved []] (.ok ()) rest
  | stop {result : Except Error Unit} {rest : List String} : Ends (.stop result) [] result rest

inductive Breaks : Move σ → Fault → List Event → Prop
  | ask {accept : String → Except Error (Snapshot × σ)} {fault : Fault} {trace : List Event}
      (hfault : fault.OnRead trace) : Breaks (.ask accept) fault trace
  | tell {entries : List Log.Entry} {line : String} {s : Snapshot} {k : σ} {fault : Fault}
      {trace : List Event} (hfault : fault.OnWrite line trace) :
      Breaks (.tell entries line s k) fault trace
  | conclude {line : String} {fault : Fault} {trace : List Event}
      (hfault : fault.OnWrite line trace) : Breaks (.conclude line) fault trace
  | save {move : Move σ} {visible : List Event} {s : Snapshot} {k : σ} {reason : String}
      (hdoes : move.Does visible s k) : Breaks move (.store reason) (visible ++ [.saveRefused])
  | leave {reason : String} : Breaks .leave (.store reason) [.saveRefused]

inductive Acts {ω : Type} [World ω] (w : ω) : Move σ → Snapshot → σ → ω → Prop
  | ask {accept : String → Except Error (Snapshot × σ)} {line : String} {s : Snapshot} {k : σ}
      {w₁ : ω} (hread : World.readLine w = (.ok line, w₁)) (haccept : accept line = .ok (s, k)) :
      Acts w (.ask accept) s k w₁
  | tell {entries : List Log.Entry} {line : String} {s : Snapshot} {k : σ} {w₁ : ω}
      (hwrite : World.writeLine line (World.noteAll entries w) = (.ok (), w₁)) :
      Acts w (.tell entries line s k) s k w₁
  | save {s : Snapshot} {k : σ} : Acts w (.save s k) s k w

variable {move : Move σ} {s s' : Snapshot} {k k' : σ} {visible visible' tail tail' : List Event}
  {result result' : Except Error Unit} {rest rest' : List String}

theorem Does.unique (h : move.Does visible s k) (h' : move.Does visible' s' k')
    (hlines : Event.linesRead visible ++ rest = Event.linesRead visible' ++ rest') :
    visible = visible' ∧ s = s' ∧ rest = rest' := by
  cases h with
  | ask haccept =>
    cases h' with
    | ask haccept' =>
      obtain ⟨rfl, rfl⟩ : _ = _ ∧ rest = rest' := by simpa using hlines
      rw [haccept] at haccept'
      cases haccept'
      exact ⟨rfl, rfl, rfl⟩
  | tell =>
    cases h'
    exact ⟨rfl, rfl, by simpa using hlines⟩
  | save =>
    cases h'
    exact ⟨rfl, rfl, by simpa using hlines⟩

theorem Does.effective_eq (h : move.Does visible s k) : Event.effective visible = visible := by
  cases h <;> rfl

theorem Ends.effective_eq (h : move.Ends tail result rest) : Event.effective tail = tail := by
  cases h <;> rfl

theorem Does.saved_notMem (h : move.Does visible s k) (blob : Bytes) :
    .saved blob ∉ visible := by
  cases h <;> simp

/-- A move that ends saves nothing, or it empties the slot. -/
theorem Ends.eq_nil_of_saved {blob : Bytes} (h : move.Ends tail result rest)
    (hblob : .saved blob ∈ tail) : blob = [] := by
  cases h <;> simp_all

theorem Breaks.saved_notMem {fault : Fault} (h : move.Breaks fault tail) (blob : Bytes) :
    .saved blob ∉ tail := by
  cases h with
  | ask hfault => cases hfault <;> simp
  | tell hfault => cases hfault <;> simp
  | conclude hfault => cases hfault <;> simp
  | save hdoes => simpa using hdoes.saved_notMem blob
  | leave => simp

theorem Ends.unique (h : move.Ends tail result rest) (h' : move.Ends tail' result' rest')
    (hlines : Event.linesRead tail ++ rest = Event.linesRead tail' ++ rest') :
    tail = tail' ∧ result = result' ∧ rest = rest' := by
  cases h with
  | dry =>
    cases h' with
    | dry => exact ⟨rfl, rfl, rfl⟩
    | misread haccept => simp [Event.linesRead] at hlines
  | misread haccept =>
    cases h' with
    | dry => simp [Event.linesRead] at hlines
    | misread haccept' =>
      obtain ⟨rfl, rfl⟩ : _ = _ ∧ rest = rest' := by simpa using hlines
      rw [haccept] at haccept'
      cases haccept'
      exact ⟨rfl, rfl, rfl⟩
  | conclude =>
    cases h'
    exact ⟨rfl, rfl, by simpa using hlines⟩
  | leave =>
    cases h'
    exact ⟨rfl, rfl, by simpa using hlines⟩
  | stop =>
    cases h'
    exact ⟨rfl, rfl, by simpa using hlines⟩

theorem Ends.not_does (h : move.Ends tail result rest) (h' : move.Does visible s k)
    (hlines : Event.linesRead tail ++ rest = Event.linesRead visible ++ rest') : False := by
  cases h with
  | dry =>
    cases h'
    simp [Event.linesRead] at hlines
  | misread haccept =>
    cases h' with
    | ask haccept' =>
      obtain ⟨rfl, -⟩ : _ = _ ∧ rest = rest' := by simpa using hlines
      rw [haccept] at haccept'
      cases haccept'
  | conclude => cases h'
  | leave => cases h'
  | stop => cases h'

theorem Acts.exists_does {ω : Type} [World ω] {w w₁ : ω} (h : move.Acts w s k w₁) :
    ∃ visible, move.Does visible s k := by
  cases h with
  | ask hread haccept => exact ⟨_, .ask haccept⟩
  | tell hwrite => exact ⟨_, .tell⟩
  | save => exact ⟨_, .save⟩

/-- A machine that goes on has done what its move does and has then saved its snapshot. -/
theorem acts_of_going {ω : Type} [World ω] {c c' : Checkpointer} {w w' : ω}
    (h : Machine.carryOut move c w = .going c' k w') :
    ∃ w₁, move.Acts w c'.snapshot k w₁ ∧ Machine.saveThen c'.snapshot k c w₁ = .going c' k w' := by
  cases move with
  | ask accept =>
    cases hread : World.readLine w with
    | mk result w₁ =>
      simp only [Machine.carryOut_eq, hread] at h
      cases result with
      | error error => cases h
      | ok line =>
        cases haccept : accept line with
        | error error =>
          simp only [haccept] at h
          cases h
        | ok next =>
          obtain ⟨s, next⟩ := next
          simp only [haccept] at h
          obtain ⟨rfl, rfl, -⟩ := Machine.saveThen_going h
          exact ⟨w₁, .ask hread haccept, h⟩
  | tell entries line s next =>
    cases hwrite : World.writeLine line (World.noteAll entries w) with
    | mk result w₁ =>
      simp only [Machine.carryOut_eq, hwrite] at h
      cases result with
      | error error => cases h
      | ok _ =>
        obtain ⟨rfl, rfl, -⟩ := Machine.saveThen_going h
        exact ⟨w₁, .tell hwrite, h⟩
  | save s next =>
    obtain ⟨rfl, rfl, -⟩ := Machine.saveThen_going h
    exact ⟨w, .save, h⟩
  | conclude line => cases h
  | leave =>
    simp only [Machine.carryOut_eq] at h
    split at h <;> cases h
  | stop result => cases h

end Move

end DurableCalc
