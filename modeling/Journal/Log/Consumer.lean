import Journal.Log
import Journal.Log.Start
/-!
Consumers of a topic. A consumer has a place of its own in the topic. It looks for the next entry that its
start admits; once one was found the start is no longer tested, because ids ascend.

A consumer that found nothing waits until the topic has grown since it last looked or its deadline has come.
-/
namespace Journal

structure Consumer where
  topic : String
  cursor : Nat := 0
  start : Option Start := none
  seen : Nat := 0
  deriving DecidableEq, Repr

inductive Received where
  | entry (entry : Entry)
  | nothing
  | failed (error : TransportError)
  | waiting
  deriving DecidableEq, Repr

namespace Consumer

def seek : List Entry → Consumer → Consumer
  | [], c => c
  | e :: rest, c =>
    match c.start with
    | none => c
    | some s => if s.admits e.id then { c with start := none } else seek rest { c with cursor := c.cursor + 1 }

def look (entries : List Entry) (c : Consumer) : Option Entry × Consumer :=
  let c := seek (entries.drop c.cursor) { c with seen := entries.length }
  match c.start, entries[c.cursor]? with
  | none, some e => (some e, { c with cursor := c.cursor + 1 })
  | _, _ => (none, c)

/-- One look at a receive that ends at `deadline`. `parked` says that it has looked before and waits. An
entry that is there at the deadline is still received. -/
def receive (now deadline : Nat) (parked : Bool) (entries : List Entry) (c : Consumer) : Received × Consumer :=
  let idle : Received := if deadline ≤ now then .nothing else .waiting
  if parked && c.seen == entries.length then (idle, c)
  else
    match c.look entries with
    | (some e, c) => (.entry e, c)
    | (none, c) => (idle, c)

end Consumer
end Journal
