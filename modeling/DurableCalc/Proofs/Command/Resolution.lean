import DurableCalc.Proofs.Command.Names
import DurableCalc.Session.Basic
import Mathlib.Data.List.Nodup
import Mathlib.Data.List.Pairwise

/-!
# The resolution of names

Two things resolve a name. A catalog of commands has an index from names in lower case to slots, in
which a command that is registered later takes over the names that it shares with earlier ones; this
is how a registry finds a command. A guide looks through its topics from the first one on, letter
case apart. Where no name belongs to two commands both find the same command.
-/

namespace DurableCalc

namespace Text

@[simp] theorem fold_fold (text : String) : fold (fold text) = fold text := by
  have hchar (c : Char) : c.toLower.toLower = c.toLower := by
    delta Char.toLower
    grind
  rw [fold, toList_fold, List.map_map]
  exact congrArg String.ofList (List.map_congr_left fun c _ => hchar c)

end Text

def Command.keys (c : Command) : List String :=
  c.description.names.map Text.fold

theorem Command.any_names (c : Command) (key : String) :
    (c.description.names.any fun own => Text.fold own == key) = decide (key ∈ c.keys) := by
  rw [Bool.eq_iff_iff]
  simp [keys]

theorem Topic.answersTo_of (c : Command) (name : String) :
    (Topic.of c.description).answersTo name = decide (Text.fold name ∈ c.keys) := by
  rw [Bool.eq_iff_iff]
  simp [answersTo, of, Command.keys]

theorem Registry.lookup_eq_find? (r : Registry) (name : String) :
    r.lookup name = r.commands.reverse.find? fun c => Text.fold (Text.trim name) ∈ c.keys := by
  simp only [lookup, Command.any_names]

/-- Commands in the order of their registration, and the slot that each name in lower case has been
entered for. -/
structure Catalog where
  commands : List Command := []
  index : Std.HashMap String Nat := {}

namespace Catalog

def register (g : Catalog) (c : Command) : Catalog where
  commands := g.commands ++ [c]
  index := c.keys.foldl (fun index key => index.insert key g.commands.length) g.index

def ofCommands (commands : List Command) : Catalog :=
  commands.foldl register {}

def lookup (g : Catalog) (name : String) : Option Command :=
  g.index[Text.fold (Text.trim name)]?.bind fun slot => g.commands[slot]?

theorem getElem?_foldl_insert (keys : List String) (slot : Nat) (index : Std.HashMap String Nat)
    (key : String) :
    (keys.foldl (fun index key => index.insert key slot) index)[key]? =
      if key ∈ keys then some slot else index[key]? := by
  induction keys generalizing index with
  | nil => simp
  | cons own keys ih =>
    rw [List.foldl_cons, ih, Std.HashMap.getElem?_insert]
    by_cases hkey : key ∈ keys
    · simp [hkey]
    · by_cases hown : own = key
      · simp [hown]
      · simp [hkey, hown, Ne.symm hown]

def Leads (g : Catalog) : Prop :=
  ∀ key, (∀ slot, g.index[key]? = some slot → slot < g.commands.length) ∧
    (g.index[key]?.bind fun slot => g.commands[slot]?) =
      g.commands.reverse.find? fun c => key ∈ c.keys

theorem Leads.register {g : Catalog} (h : g.Leads) (c : Command) : (g.register c).Leads := by
  intro key
  obtain ⟨hslot, hfind⟩ := h key
  simp only [Catalog.register, getElem?_foldl_insert, List.reverse_append, List.reverse_singleton,
    List.singleton_append, List.length_append, List.length_singleton, List.find?_cons]
  by_cases hkey : key ∈ c.keys
  · simp [hkey]
  · simp only [hkey, decide_false]
    refine ⟨fun slot h => Nat.lt_succ_of_lt (hslot slot h), ?_⟩
    -- A slot that was there before is not the new one.
    rw [← hfind]
    cases hindex : g.index[key]? with
    | none => rfl
    | some slot => exact List.getElem?_append_left (hslot slot hindex)

theorem leads_ofCommands (commands : List Command) : (ofCommands commands).Leads := by
  have hempty : ({} : Catalog).Leads := by
    intro key
    simp
  exact List.foldlRecOn commands register hempty fun g hleads c _ => hleads.register c

theorem commands_ofCommands (commands : List Command) :
    (ofCommands commands).commands = commands := by
  have hfold (commands : List Command) (g : Catalog) :
      (commands.foldl register g).commands = g.commands ++ commands := by
    induction commands generalizing g with
    | nil => simp
    | cons c commands ih => simp [ih, register]
  exact hfold commands {}

/-- A registry finds what the catalog of its commands leads to. -/
theorem lookup_ofCommands (r : Registry) (name : String) :
    (ofCommands r.commands).lookup name = r.lookup name := by
  have hleads := (leads_ofCommands r.commands (Text.fold (Text.trim name))).2
  rw [lookup, hleads, commands_ofCommands, r.lookup_eq_find?]

end Catalog

theorem find?_eq_some_iff_of_unique {p : α → Bool} {l : List α} {a : α}
    (hunique : ∀ a ∈ l, ∀ b ∈ l, p a = true → p b = true → a = b) :
    l.find? p = some a ↔ a ∈ l ∧ p a = true := by
  constructor
  · intro hfind
    exact ⟨List.mem_of_find?_eq_some hfind, List.find?_some hfind⟩
  · rintro ⟨ha, hp⟩
    cases hfind : l.find? p with
    | none => exact absurd hp (List.find?_eq_none.1 hfind a ha)
    | some b =>
      have hb := List.find?_some hfind
      rw [hunique a ha b (List.mem_of_find?_eq_some hfind) hp hb]

/-- Commands among which every name is used once. -/
def Apart (commands : List Command) : Prop :=
  (commands.flatMap Command.keys).Nodup

theorem Apart.unique {commands : List Command} (h : Apart commands) {c d : Command}
    (hc : c ∈ commands) (hd : d ∈ commands) {key : String} (hkey : key ∈ c.keys)
    (hkey' : key ∈ d.keys) : c = d := by
  have hdisjoint := (List.nodup_flatMap.1 h).2
  have : Std.Symm (Function.onFun List.Disjoint Command.keys) := ⟨fun _ _ => List.disjoint_symm⟩
  by_contra hne
  exact hdisjoint.forall hc hd hne hkey hkey'

def Guide.to (commands : List Command) : Guide :=
  ⟨commands.map fun c => Topic.of c.description⟩

namespace Registry

variable {r : Registry} {name : String} {c : Command}

theorem lookup_eq_none_iff :
    r.lookup name = none ↔ ∀ c ∈ r.commands, Text.fold (Text.trim name) ∉ c.keys := by
  simp [lookup_eq_find?]

theorem lookup_eq_some_iff (hapart : Apart r.commands) :
    r.lookup name = some c ↔ c ∈ r.commands ∧ Text.fold (Text.trim name) ∈ c.keys := by
  rw [lookup_eq_find?, find?_eq_some_iff_of_unique, List.mem_reverse, decide_eq_true_iff]
  simp only [List.mem_reverse, decide_eq_true_iff]
  exact fun c hc d hd => hapart.unique hc hd

end Registry

namespace Guide

variable {commands : List Command} {query : String} {c : Command}

theorem find?_topics_to (commands : List Command) (name : String) :
    (Guide.to commands).topics.find? (fun t => t.answersTo name) =
      (commands.find? fun c => Text.fold name ∈ c.keys).map fun c => Topic.of c.description := by
  have hsame : (fun t : Topic => t.answersTo name) ∘ (fun c : Command => Topic.of c.description) =
      fun c => decide (Text.fold name ∈ c.keys) := by
    funext c
    rw [Function.comp_apply, Topic.answersTo_of]
  rw [Guide.to, List.find?_map, hsame]

theorem block_of_mem_keys (hapart : Apart commands) (hc : c ∈ commands)
    (hkey : Text.fold (Text.trim query) ∈ c.keys) :
    (Guide.to commands).block query = [c.description.summary, leaveLine] := by
  have hfind : (commands.find? fun c => Text.fold (Text.trim query) ∈ c.keys) = some c := by
    rw [find?_eq_some_iff_of_unique, decide_eq_true_iff]
    · exact ⟨hc, hkey⟩
    · simp only [decide_eq_true_iff]
      exact fun c hc d hd => hapart.unique hc hd
  rw [block, find?_topics_to, hfind]
  rfl

theorem block_of_notMem_keys (hkey : ∀ c ∈ commands, Text.fold (Text.trim query) ∉ c.keys) :
    (Guide.to commands).block query = (Guide.to commands).fallback := by
  have hfind : (commands.find? fun c => Text.fold (Text.trim query) ∈ c.keys) = none := by
    simpa using hkey
  rw [block, find?_topics_to, hfind]
  rfl

end Guide

namespace Registry

def guided (others : List Command) : Registry :=
  ⟨others ++ [.help (.to others)]⟩

variable {others : List Command} {query : String} {c : Command}

theorem mem_guided_iff :
    c ∈ (guided others).commands ↔ c ∈ others ∨ c = .help (.to others) := by
  simp [guided]

theorem help_notMem_of_apart (hapart : Apart (guided others).commands) :
    .help (.to others) ∉ others := by
  intro hmem
  rw [Apart, guided, List.flatMap_append, List.nodup_append] at hapart
  have hname : "help" ∈ (Command.help (.to others)).keys := by
    have hkeys : (Command.help (.to others)).keys = [Text.fold "help"] := rfl
    rw [hkeys]
    decide
  exact hapart.2.2 _ (List.mem_flatMap.2 ⟨_, hmem, hname⟩) _ (by simpa using hname) rfl

/-- A name that calls another command than the guide is answered with that command's block. -/
theorem block_of_lookup (hapart : Apart (guided others).commands)
    (hlookup : (guided others).lookup query = some c) (hother : c ≠ .help (.to others)) :
    (Guide.to others).block query = [c.description.summary, Guide.leaveLine] := by
  obtain ⟨hc, hkey⟩ := (lookup_eq_some_iff hapart).1 hlookup
  have hothers : Apart others := by
    rw [Apart, guided, List.flatMap_append] at hapart
    exact hapart.of_append_left
  exact Guide.block_of_mem_keys hothers ((mem_guided_iff.1 hc).resolve_right hother) hkey

/-- A name that calls no command, or the guide itself, is answered with the fallback. -/
theorem block_of_lookup_none_or_help (hapart : Apart (guided others).commands)
    (hlookup : (guided others).lookup query = none ∨
      (guided others).lookup query = some (.help (.to others))) :
    (Guide.to others).block query = (Guide.to others).fallback := by
  refine Guide.block_of_notMem_keys fun c hc hkey => ?_
  rcases hlookup with hnone | hself
  · exact lookup_eq_none_iff.1 hnone c (mem_guided_iff.2 (.inl hc)) hkey
  · obtain ⟨hguide, hkey'⟩ := (lookup_eq_some_iff hapart).1 hself
    obtain rfl := hapart.unique hguide (mem_guided_iff.2 (.inl hc)) hkey' hkey
    exact help_notMem_of_apart hapart hc

end Registry

namespace Registry

theorem standard_eq_guided (maxCount : UInt32) :
    standard maxCount = guided [.sum, .median maxCount, .randomSequence maxCount] := rfl

theorem keys_standard (maxCount : UInt32) :
    (standard maxCount).commands.flatMap Command.keys =
      ["sum", "add", "median", "random-sequence", "rand", "help"] := by
  have hnames : (standard maxCount).commands.flatMap Command.keys =
      ["sum", "add", "median", "random-sequence", "rand", "help"].map Text.fold := rfl
  rw [hnames]
  decide

theorem apart_standard (maxCount : UInt32) : Apart (standard maxCount).commands := by
  rw [Apart, keys_standard]
  decide

theorem lookup_standard_of_notMem {maxCount : UInt32} {name : String}
    (h : Text.fold (Text.trim name) ∉
      ["sum", "add", "median", "random-sequence", "rand", "help"]) :
    (standard maxCount).lookup name = none := by
  rw [lookup_eq_none_iff]
  intro c hc hkey
  exact h (keys_standard maxCount ▸ List.mem_flatMap.2 ⟨c, hc, hkey⟩)

/-- The standard registry and the guide in it resolve names alike. A line that calls another command
than the guide is answered with that command's summary, and every other line with the fallback; the
registry finds what the index of its names leads to. No command has the word that leaves a session
or the word that leaves the guide for a name. -/
theorem resolves_as_guide (maxCount : UInt32) :
    ∃ guide, (∀ g, .help g ∈ (standard maxCount).commands ↔ g = guide) ∧ ∀ query,
      (Catalog.ofCommands (standard maxCount).commands).lookup query =
        (standard maxCount).lookup query ∧
      (∀ c, (standard maxCount).lookup query = some c → c.kind ≠ .help →
        guide.block query = [c.description.summary, Guide.leaveLine]) ∧
      ((standard maxCount).lookup query = none ∨
          (standard maxCount).lookup query = some (.help guide) →
        guide.block query = guide.fallback) ∧
      (Text.fold (Text.trim query) = Session.exitKeyword ∨
          Text.fold (Text.trim query) = Guide.leaveKeyword →
        (standard maxCount).lookup query = none) := by
  have hapart : Apart (standard maxCount).commands := apart_standard maxCount
  rw [standard_eq_guided] at hapart ⊢
  refine ⟨.to [.sum, .median maxCount, .randomSequence maxCount], ?_, fun query => ?_⟩
  · simp [mem_guided_iff]
  refine ⟨Catalog.lookup_ofCommands _ query, ?_, block_of_lookup_none_or_help hapart, ?_⟩
  · rintro c hlookup hkind
    refine block_of_lookup hapart hlookup ?_
    rintro rfl
    exact hkind rfl
  · intro hkeyword
    apply lookup_standard_of_notMem
    rcases hkeyword with h | h <;> rw [h] <;> decide

end Registry

end DurableCalc
