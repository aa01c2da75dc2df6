import RecordBinding.Number
/-!
A cache whose entries go unused after an idle time. Every operation here is one section under the
cache's lock, with the clock reading as an argument; a build runs between the section that asks for it
and the section that publishes or abandons it, and any number of other sections may come between. A
generation counter tells a build that the cache was cleared behind its back.
-/

namespace RecordBinding

/-- Instants and spans of a clock: their sum and difference, and the two comparisons that expiry rests
on. The comparisons need not be opposites. -/
class TimeScale (τ : Type) where
  add : τ → τ → τ
  sub : τ → τ → τ
  before : τ → τ → Bool
  atLeast : τ → τ → Bool

instance : TimeScale Int where
  add := (· + ·)
  sub := (· - ·)
  before a b := decide (a < b)
  atLeast a b := decide (b ≤ a)

instance : TimeScale Float where
  add := (· + ·)
  sub := (· - ·)
  before a b := a < b
  atLeast a b := b ≤ a

instance : TimeScale Number where
  add := Number.add
  sub := Number.sub
  before a b := a.compare? b == some .lt
  atLeast a b := a.compare? b == some .gt || a.compare? b == some .eq

/-- A stored value with the clock reading of its last access. -/
structure CacheEntry (β τ : Type) where
  value : β
  lastAccess : τ

/-- The state of a cache: its entries, the builds under way by key, the generation, the time of the next
sweep, and the number of builds begun so far. -/
structure Cache (κ β τ : Type) where
  idleTime : τ
  entries : List (κ × CacheEntry β τ)
  pending : List (κ × Nat)
  generation : Nat
  nextSweep : τ
  buildsBegun : Nat

/-- The right to publish or abandon a build. -/
structure BuildTicket (κ : Type) where
  key : κ
  build : Nat
  generation : Nat

/-- What a lookup comes to: a stored value, a build under way to wait for, or a build to run. -/
inductive LookupOutcome (κ β : Type) where
  | hit (value : β)
  | wait (build : Nat)
  | run (ticket : BuildTicket κ)

/-- A lookup's outcome, with what it removed: the number of entries swept, and whether the entry asked
for was found expired. -/
structure Lookup (κ β : Type) where
  outcome : LookupOutcome κ β
  swept : Nat
  expired : Bool

namespace Cache

variable {κ β τ : Type} [BEq κ] [TimeScale τ]

def empty (idleTime now : τ) : Cache κ β τ :=
  { idleTime
    entries := []
    pending := []
    generation := 0
    nextSweep := TimeScale.add now idleTime
    buildsBegun := 0 }

def size (c : Cache κ β τ) : Nat :=
  c.entries.length

def entry? (c : Cache κ β τ) (key : κ) : Option (CacheEntry β τ) :=
  (c.entries.find? fun entry => entry.1 == key).map (·.2)

def pending? (c : Cache κ β τ) (key : κ) : Option Nat :=
  (c.pending.find? fun entry => entry.1 == key).map (·.2)

/-- Whether an entry has been idle for too long. -/
def isExpired (c : Cache κ β τ) (now : τ) (entry : CacheEntry β τ) : Bool :=
  TimeScale.atLeast (TimeScale.sub now entry.lastAccess) c.idleTime

def has (c : Cache κ β τ) (key : κ) (now : τ) : Bool :=
  match c.entry? key with
  | some entry => !c.isExpired now entry
  | none => false

def eraseEntry (c : Cache κ β τ) (key : κ) : Cache κ β τ :=
  { c with entries := c.entries.filter fun entry => !(entry.1 == key) }

/-- Sets the entry of a key: in its place when present, at the end otherwise. -/
def setEntry (c : Cache κ β τ) (key : κ) (entry : CacheEntry β τ) : Cache κ β τ :=
  if c.entries.any fun other => other.1 == key then
    { c with
      entries := c.entries.map fun other => if other.1 == key then (other.1, entry) else other }
  else { c with entries := c.entries ++ [(key, entry)] }

/-- Removes all expired entries when the next sweep is due. -/
def sweep (c : Cache κ β τ) (now : τ) : Cache κ β τ :=
  if TimeScale.before now c.nextSweep then c
  else
    { c with
      nextSweep := TimeScale.add now c.idleTime
      entries := c.entries.filter fun entry => !c.isExpired now entry.2 }

def nextTicket (c : Cache κ β τ) (key : κ) : BuildTicket κ :=
  ⟨key, c.buildsBegun, c.generation⟩

/-- Joins the build under way for a key, or begins one. -/
def joinBuild (c : Cache κ β τ) (key : κ) : LookupOutcome κ β × Cache κ β τ :=
  match c.pending? key with
  | some build => (.wait build, c)
  | none =>
      (.run (c.nextTicket key),
        { c with
          pending := c.pending ++ [(key, c.buildsBegun)]
          buildsBegun := c.buildsBegun + 1 })

/-- Asks for a key at a clock reading that was taken before. A usable entry is refreshed; an expired one
is removed. -/
def lookup (c : Cache κ β τ) (key : κ) (now : τ) : Lookup κ β × Cache κ β τ :=
  let kept := c.sweep now
  let swept := c.size - kept.size
  match kept.entry? key with
  | some entry =>
      if kept.isExpired now entry then
        let (outcome, c) := (kept.eraseEntry key).joinBuild key
        (⟨outcome, swept, true⟩, c)
      else
        (⟨.hit entry.value, swept, false⟩, kept.setEntry key ⟨entry.value, now⟩)
  | none =>
      let (outcome, c) := kept.joinBuild key
      (⟨outcome, swept, false⟩, c)

/-- Forgets that a build is under way, unless a newer one has taken its place. -/
def release (c : Cache κ β τ) (ticket : BuildTicket κ) : Cache κ β τ :=
  if c.pending? ticket.key == some ticket.build then
    { c with pending := c.pending.filter fun entry => !(entry.1 == ticket.key) }
  else c

/-- Whether a build was begun after the last clearing. -/
def isCurrent (c : Cache κ β τ) (ticket : BuildTicket κ) : Bool :=
  ticket.generation == c.generation

/-- Ends a build with a value, which is stored if the build is current. -/
def publish (c : Cache κ β τ) (ticket : BuildTicket κ) (value : β) (now : τ) : Cache κ β τ :=
  let released := c.release ticket
  if c.isCurrent ticket then released.setEntry ticket.key ⟨value, now⟩ else released

/-- Ends a build that failed. -/
def abandon (c : Cache κ β τ) (ticket : BuildTicket κ) : Cache κ β τ :=
  c.release ticket

/-- Forgets a key; builds under way will not be stored. -/
def invalidate (c : Cache κ β τ) (key : κ) : Cache κ β τ :=
  { c with
    entries := c.entries.filter fun entry => !(entry.1 == key)
    pending := c.pending.filter fun entry => !(entry.1 == key)
    generation := c.generation + 1 }

/-- Forgets everything; builds under way will not be stored. -/
def clear (c : Cache κ β τ) : Cache κ β τ :=
  { c with entries := [], pending := [], generation := c.generation + 1 }

end Cache

end RecordBinding
