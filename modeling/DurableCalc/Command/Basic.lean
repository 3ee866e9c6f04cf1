import DurableCalc.Command.Sum
import DurableCalc.Command.Median
import DurableCalc.Command.RandomSequence
import DurableCalc.Command.Help

/-!
# Commands

The four commands, what they are called, and a command at work. A job is a command together with its
own copy of the progress; it starts from the progress that a snapshot holds for it, or from the
beginning.
-/

namespace DurableCalc

inductive Command
  | sum
  | median (maxCount : UInt32)
  | randomSequence (maxCount : UInt32)
  | help (guide : Guide)
  deriving DecidableEq, Repr

namespace Command

def description : Command → Description
  | .sum => { name := Kind.sum.commandName, aliases := ["add"], summary := "Adds two integers" }
  | .median _ =>
    { name := Kind.median.commandName, summary := "Computes the median of a list of integers" }
  | .randomSequence _ =>
    { name := Kind.randomSequence.commandName, aliases := ["rand"]
      summary := "Generates a sequence of pseudo-random numbers" }
  | .help _ =>
    { name := Kind.help.commandName, summary := "Shows help for the available commands" }

def name (c : Command) : String :=
  c.description.name

def kind : Command → Kind
  | .sum => .sum
  | .median _ => .median
  | .randomSequence _ => .randomSequence
  | .help _ => .help

end Command

inductive Job
  | sum (p : SumProgress)
  | median (maxCount : UInt32) (p : MedianProgress)
  | randomSequence (maxCount : UInt32) (p : RandomProgress)
  | help (guide : Guide) (p : HelpProgress)
  deriving DecidableEq, Repr

namespace Job

def start (c : Command) (s : Snapshot) : Job :=
  match c with
  | .sum => .sum s.sumProgress
  | .median maxCount => .median maxCount s.medianProgress
  | .randomSequence maxCount => .randomSequence maxCount s.randomProgress
  | .help guide => .help guide s.helpProgress

def progress : Job → Progress
  | .sum p => .sum p
  | .median _ p => .median p
  | .randomSequence _ p => .randomSequence p
  | .help _ p => .help p

def next : Job → Step Job
  | .sum p => p.next.map .sum
  | .median maxCount p => (p.next maxCount).map (.median maxCount)
  | .randomSequence maxCount p => (p.next maxCount).map (.randomSequence maxCount)
  | .help guide p => (p.next guide).map (.help guide)

/-- A bound on the steps that a job takes before it asks for a line or ends. -/
def work : Job → Nat
  | .sum _ => 0
  | .median _ _ => 0
  | .randomSequence _ p => p.work
  | .help guide p => p.work guide

theorem work_lt {job next : Job} (h : job.next.goesOn? = some next) : next.work < job.work := by
  cases job with
  | sum p => simp [Job.next, SumProgress.goesOn?_next] at h
  | median maxCount p => simp [Job.next, MedianProgress.goesOn?_next] at h
  | randomSequence maxCount p =>
    rw [Job.next, Step.goesOn?_map] at h
    obtain ⟨q, hq, rfl⟩ := Option.map_eq_some_iff.1 h
    exact RandomProgress.work_lt hq
  | help guide p =>
    rw [Job.next, Step.goesOn?_map] at h
    obtain ⟨q, hq, rfl⟩ := Option.map_eq_some_iff.1 h
    exact HelpProgress.work_lt hq

end Job

end DurableCalc
