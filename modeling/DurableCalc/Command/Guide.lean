import DurableCalc.Text.Blank

/-!
# Guides

A guide explains commands. It opens with an introduction, answers the name of a topic with the
topic's block, and any other line with a fallback block. A topic is found by each of its names.
-/

namespace DurableCalc

structure Description where
  name : String
  aliases : List String := []
  summary : String
  deriving DecidableEq, Repr

def Description.names (d : Description) : List String :=
  d.name :: d.aliases

structure Topic where
  names : List String
  summary : String
  deriving DecidableEq, Repr

/-- The topic of a command, with all its names in lower case. -/
def Topic.of (d : Description) : Topic :=
  ⟨d.names.map Text.fold, d.summary⟩

def Topic.answersTo (t : Topic) (name : String) : Bool :=
  t.names.any fun own => Text.fold own == Text.fold name

structure Guide where
  topics : List Topic
  deriving DecidableEq, Repr

namespace Guide

def leaveKeyword : String := "end"

def leaveLine : String := "Type end to leave help mode"

def listing (g : Guide) : String :=
  "Available commands: " ++ ", ".intercalate (g.topics.filterMap fun t => t.names.head?)

def intro (g : Guide) : List String :=
  ["Enter a command name to see its help", g.listing, leaveLine]

def fallback (g : Guide) : List String :=
  ["No such command", g.listing, leaveLine]

def block (g : Guide) (query : String) : List String :=
  match g.topics.find? fun t => t.answersTo (Text.trim query) with
  | some t => [t.summary, leaveLine]
  | none => g.fallback

@[simp] theorem length_intro (g : Guide) : g.intro.length = 3 := rfl

theorem length_block_le (g : Guide) (query : String) : (g.block query).length ≤ 3 := by
  unfold block
  split <;> simp [fallback]

end Guide

end DurableCalc
