import Journal.Json.Record
/-!
Settings of the log and of restores. Both are records of which every field has a default.
-/
namespace Journal

structure LogSettings where
  defaultSource : String := "default"
  topicPrefix : String := "tx-"
  topicPerSource : Bool := true
  deriving DecidableEq, Repr

inductive UnrecognizedPolicy where
  | ignore
  | abort
  deriving DecidableEq, Repr

namespace UnrecognizedPolicy

def name : UnrecognizedPolicy → String
  | .ignore => "ignore"
  | .abort => "abort"

def all : List UnrecognizedPolicy := [.ignore, .abort]

def ofName? (s : String) : Option UnrecognizedPolicy := all.find? fun policy => policy.name = s

end UnrecognizedPolicy

structure RestoreSettings where
  pollInterval : Nat := 3000
  unrecognized : UnrecognizedPolicy := .ignore
  deriving DecidableEq, Repr

structure Settings where
  log : LogSettings := {}
  restore : RestoreSettings := {}
  deriving DecidableEq, Repr

namespace LogSettings

def shape : Json.Shape where
  title := "struct TxLogConfig"
  fields := [("default_source", .text), ("topic_prefix", .text), ("topic_per_source", .flag)]
  defaults := true

def ofSlots (slots : Json.Slots) : LogSettings :=
  let fallback : LogSettings := {}
  { defaultSource := slots.text "default_source" fallback.defaultSource
    topicPrefix := slots.text "topic_prefix" fallback.topicPrefix
    topicPerSource := slots.flag "topic_per_source" fallback.topicPerSource }

def ofText (s : String) : Except Json.Fault LogSettings := (shape.ofText s).map ofSlots

end LogSettings

namespace RestoreSettings

def shape : Json.Shape where
  title := "struct RestoreConfig"
  fields := [("poll_interval_ms", .count), ("unrecognized_method", .variant (UnrecognizedPolicy.all.map (·.name)))]
  defaults := true

def ofSlots (slots : Json.Slots) : RestoreSettings :=
  let fallback : RestoreSettings := {}
  { pollInterval := slots.count "poll_interval_ms" fallback.pollInterval
    unrecognized := ((slots.text? "unrecognized_method").bind UnrecognizedPolicy.ofName?).getD fallback.unrecognized }

def ofText (s : String) : Except Json.Fault RestoreSettings := (shape.ofText s).map ofSlots

end RestoreSettings

def unplaced {α : Type} (r : Except Json.Cause α) : Except Json.Fault α := r.mapError (⟨·, none⟩)

def fewerElements : String := "fewer elements in array"

def LogSettings.ofValue (j : Json) : Except Json.Fault LogSettings :=
  unplaced ((shape.ofValue fewerElements j).map ofSlots)

def RestoreSettings.ofValue (j : Json) : Except Json.Fault RestoreSettings :=
  unplaced ((shape.ofValue fewerElements j).map ofSlots)

end Journal
