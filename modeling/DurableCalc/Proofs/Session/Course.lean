import DurableCalc.Proofs.Session.Act
import DurableCalc.Proofs.Snapshot.RoundTrip

/-!
# Courses of a session

A course is a chain of acts, each of them saved. The lines that are read decide it: a course after
which the session ends goes on from every other course from the same snapshot on the same input.
-/

namespace DurableCalc.Session

variable {r : Registry}

inductive Course (r : Registry) : Snapshot → List Event → Snapshot → Prop
  | refl (s : Snapshot) : Course r s [] s
  | cons {s s' s'' : Snapshot} {visible trace : List Event} (hact : Act r s visible s')
      (hcourse : Course r s' trace s'') : Course r s (visible ++ .saved s'.encode :: trace) s''

namespace Course

variable {s s₁ s₂ : Snapshot} {trace trace' tail : List Event} {rest rest' : List String}
  {result : Except Error Unit}

theorem trans (h : Course r s trace s₁) (h' : Course r s₁ trace' s₂) :
    Course r s (trace ++ trace') s₂ := by
  induction h with
  | refl s => exact h'
  | cons hact _ ih => simpa using Course.cons hact (ih h')

theorem fault? (h : Course r s trace s₁) (hfault : s.fault? = none) : s₁.fault? = none := by
  induction h with
  | refl s => exact hfault
  | cons hact _ ih => exact ih (hact.fault? hfault)

/-- What a course has saved last is the snapshot that it leads to. -/
theorem restore_lastSaved {blob : Bytes} (h : Course r s trace s₁)
    (hrestore : Snapshot.restore blob = .ok s) :
    Snapshot.restore (Event.lastSaved blob trace) = .ok s₁ := by
  have hfault := Snapshot.fault?_of_restore hrestore
  induction h generalizing blob with
  | refl s => exact hrestore
  | @cons s s' s'' visible trace hact hcourse ih =>
    have hfault' := hact.fault? hfault
    have hsaved := ih (Snapshot.restore_encode hfault') hfault'
    simpa using hsaved

/-- On one input, a course after which the session ends goes on from every other course. -/
theorem exists_append (h : Course r s trace s₁) (h' : Course r s trace' s₂)
    (hend : (next r s₂ none).Ends tail result rest')
    (hlines : Event.linesRead trace ++ rest = Event.linesRead (trace' ++ tail) ++ rest') :
    ∃ more, trace' = trace ++ more ∧ Course r s₁ more s₂ := by
  -- The next line decides which act comes next, so that the courses cannot part before one ends.
  induction h generalizing trace' with
  | refl s => exact ⟨trace', rfl, h'⟩
  | @cons s s' s₁ visible trace hact hcourse ih =>
    obtain ⟨k, hdoes⟩ := hact.exists_does
    cases h' with
    | refl _ =>
      have hline : Event.linesRead tail ++ rest' =
          Event.linesRead visible ++ (Event.linesRead trace ++ rest) := by
        simpa using hlines.symm
      exact (hend.not_does hdoes hline).elim
    | @cons _ s'' _ visible' trace' hact' hcourse' =>
      obtain ⟨k', hdoes'⟩ := hact'.exists_does
      have hline : Event.linesRead visible ++ (Event.linesRead trace ++ rest) =
          Event.linesRead visible' ++ (Event.linesRead (trace' ++ tail) ++ rest') := by
        simpa using hlines
      obtain ⟨rfl, rfl, hrest⟩ := hdoes.unique hdoes' hline
      obtain ⟨more, rfl, hmore⟩ := ih hcourse' hrest
      exact ⟨more, by simp, hmore⟩

end Course

/-- What a session comes to that starts from a snapshot on some lines and is never refused: it
follows a course and then ends by itself. -/
def Completes (r : Registry) (s : Snapshot) (lines : List String) (trace : List Event)
    (result : Except Error Unit) (rest : List String) : Prop :=
  ∃ course tail s', Course r s course s' ∧ (next r s' none).Ends tail result rest ∧
    trace = course ++ tail ∧ lines = Event.linesRead trace ++ rest

namespace Completes

variable {s s₁ : Snapshot} {lines rest rest' : List String} {trace trace' : List Event}
  {result result' : Except Error Unit}

theorem unique (h : Completes r s lines trace result rest)
    (h' : Completes r s lines trace' result' rest') :
    trace = trace' ∧ result = result' ∧ rest = rest' := by
  obtain ⟨course, tail, s₁, hcourse, hend, rfl, hlines⟩ := h
  obtain ⟨course', tail', s₂, hcourse', hend', rfl, hlines'⟩ := h'
  have hstart : Event.linesRead course ++ (Event.linesRead tail ++ rest) =
      Event.linesRead (course' ++ tail') ++ rest' := by
    simpa using hlines.symm.trans hlines'
  obtain ⟨more, rfl, hmore⟩ := hcourse.exists_append hcourse' hend' hstart
  cases hmore with
  | refl _ =>
    obtain ⟨rfl, rfl, rfl⟩ := hend.unique hend' (by simpa using hstart)
    simp
  | @cons _ s' _ visible more hact hmore =>
    obtain ⟨k, hdoes⟩ := hact.exists_does
    have hline : Event.linesRead tail ++ rest =
        Event.linesRead visible ++ (Event.linesRead (more ++ tail') ++ rest') := by
      simpa using hstart
    exact (hend.not_does hdoes hline).elim

theorem prepend {course : List Event} (hcourse : Course r s course s₁)
    (h : Completes r s₁ lines trace result rest) :
    Completes r s (Event.linesRead course ++ lines) (course ++ trace) result rest := by
  obtain ⟨course', tail, s₂, hcourse', hend, rfl, rfl⟩ := h
  exact ⟨course ++ course', tail, s₂, hcourse.trans hcourse', hend, by simp, by simp⟩

end Completes

end DurableCalc.Session
