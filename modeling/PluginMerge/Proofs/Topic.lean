import Mathlib.Data.List.Basic
import PluginMerge.Log.Event

/-!
# What the records of a merge are about

Who reads a log sees records, each a level and a wording, and tells them apart by the level and the
first words. This module says that this works for the events of a merge: events about the same
thing have the same level and the same first words, and those of two different things do not.

* `Event.records`: what a log shows at a threshold.
* `wordings level lead records`: the records of a level that begin with the given words.
* `Topic`: what an event of a merge is about. `Topic.lead` gives the first words.
* `wordings_records`: in the log of a merge, the records of a level with the first words of a topic
  are those of the events about that topic.
-/

namespace PluginMerge

/-! ## Records -/

/-- What a log shows at a threshold: the level and the wording of every event that passes. -/
def Event.records (t : Threshold) (log : List Event) : List (Level × Text) :=
  (Event.shown t log).map fun e => (e.level, e.message)

/-- The wordings of the records of a level that begin with the given words, in order. -/
def wordings (level : Level) (lead : Text) (records : List (Level × Text)) : List Text :=
  (records.filter fun r => r.1 = level ∧ lead <+: r.2).map Prod.snd

/-! ## Topics -/

/-- What an event of a merge is about. -/
inductive Topic where
  | debugEnabled
  | parsing
  | namespaceAdded
  | lineSkipped
  | lineDropped
  | directiveRefused
  | attributionKept
  | attributeInserted
  deriving DecidableEq, Repr

namespace Topic

def level : Topic → Level
  | debugEnabled => .info
  | parsing => .debug
  | namespaceAdded => .debug
  | lineSkipped => .trace
  | lineDropped => .warning
  | directiveRefused => .debug
  | attributionKept => .warning
  | attributeInserted => .info

/-- The first words of every record about a topic. -/
def lead : Topic → Text
  | debugEnabled => "Debug enabled (".toList
  | parsing => "Parsing ".toList
  | namespaceAdded => "Added namespace ".toList
  | lineSkipped => "[DEBUG-REGION] skip ".toList
  | lineDropped => "Dropping line outside any namespace (".toList
  | directiveRefused => "Ignoring ".toList
  | attributionKept => "PluginInfo already set".toList
  | attributeInserted => "Inserted PluginInfo (".toList

/-- The first words of one topic do not begin those of another with the same level. -/
theorem eq_of_lead_isPrefix {s t : Topic} (hLevel : s.level = t.level)
    (hLead : s.lead <+: t.lead) : s = t := by
  revert hLevel hLead
  cases s <;> cases t <;> decide +kernel

end Topic

namespace Event

/-- What an event is about, if it is one of a merge. -/
def topic? : Event → Option Topic
  | debugEnabled _ => some .debugEnabled
  | parsing _ => some .parsing
  | namespaceAdded _ => some .namespaceAdded
  | lineSkipped _ _ => some .lineSkipped
  | lineDropped _ _ _ => some .lineDropped
  | directiveRefused _ _ => some .directiveRefused
  | attributionKept _ => some .attributionKept
  | attributeInserted _ _ => some .attributeInserted
  | _ => none

variable {e : Event} {s t : Topic}

theorem level_of_topic? (h : e.topic? = some s) : e.level = s.level := by
  cases e <;> cases h <;> rfl

/-- The message of a record begins with the words of its topic. -/
theorem lead_isPrefix_message (h : e.topic? = some s) : s.lead <+: e.message := by
  cases e <;> cases h
  case directiveRefused content reason => cases reason <;> exact ⟨_, rfl⟩
  all_goals exact ⟨_, rfl⟩

/-- Level and first words tell what an event of a merge is about. -/
theorem isAbout_iff (h : e.topic? = some s) :
    (e.level = t.level ∧ t.lead <+: e.message) ↔ s = t := by
  constructor
  · rintro ⟨hLevel, hLead⟩
    rw [level_of_topic? h] at hLevel
    -- Of two texts that begin the same wording, one begins the other.
    rcases List.prefix_or_prefix_of_prefix (lead_isPrefix_message h) hLead with hs | ht
    · exact Topic.eq_of_lead_isPrefix hLevel hs
    · exact (Topic.eq_of_lead_isPrefix hLevel.symm ht).symm
  · rintro rfl
    exact ⟨level_of_topic? h, lead_isPrefix_message h⟩

theorem passes_trace (h : e.topic? = some s) : (Threshold.level .trace).passes e.level = true := by
  rw [level_of_topic? h]
  cases s <;> rfl

end Event

/-! ## Events about a topic -/

/-- The events about a topic, in order. -/
def about (t : Topic) (log : List Event) : List Event := log.filter fun e => e.topic? = some t

section About

variable (t : Topic)

@[simp] theorem about_nil : about t [] = [] := rfl

@[simp] theorem about_append (xs ys : List Event) : about t (xs ++ ys) = about t xs ++ about t ys :=
  List.filter_append xs ys

@[simp] theorem about_cons (e : Event) (log : List Event) :
    about t (e :: log) = if e.topic? = some t then e :: about t log else about t log := by
  by_cases h : e.topic? = some t <;> simp [about, h]

end About

/-- On the finest level the records of a topic can be picked out of the printed lines by their first
words. -/
theorem wordings_records {log : List Event} (hLog : ∀ e ∈ log, e.topic?.isSome) (t : Topic) :
    wordings t.level t.lead (Event.records (.level .trace) log) =
      (about t log).map Event.message := by
  have hShown : Event.shown (.level .trace) log = log := by
    refine List.filter_eq_self.mpr fun e he => ?_
    obtain ⟨s, hs⟩ := Option.isSome_iff_exists.mp (hLog e he)
    exact Event.passes_trace hs
  have hAbout : ∀ e ∈ log,
      decide (e.level = t.level ∧ t.lead <+: e.message) = decide (e.topic? = some t) := by
    intro e he
    obtain ⟨s, hs⟩ := Option.isSome_iff_exists.mp (hLog e he)
    rw [hs, decide_eq_decide, Option.some_inj]
    exact Event.isAbout_iff hs
  rw [wordings, Event.records, hShown, List.filter_map, List.map_map, about]
  exact congrArg (List.map Event.message) (List.filter_congr hAbout)

end PluginMerge
