import Custody.Proofs.Registry.Steps

/-!
# Estates

A registry together with the program that uses it through owners, and with the daemon at work.
What the two do is cut into the moves between which the other one may come: an owner that
disposes of its handle first takes its entry out of the table (`Estate.withdraw`) and then
releases it (`Estate.settle`), an owner that is dropped first posts its notice (`Estate.post`),
and either goes for good in a last move of its own (`Estate.letGo`). The daemon takes up a
notice (`Estate.notice`) or all orphans at once (`Estate.sweep`), and releases what it has in
hand one by one (`Estate.release`). An owner that is lent to a body is held while the body runs,
and however the body ends, the owner then disposes of its handle.

A run is a list of moves in any order, so that a statement about all runs is one about all
interleavings. A daemon takes up nothing new before its hand is empty; here it may, which only
adds to the runs. The release functions are those that return or panic, and can be destroyed.

Beside the registry an estate keeps what has happened so far: which owners there were, which are
still held and which have been dropped, which actions were refused, and whose entries a sweep
has taken up.
-/

namespace Custody

/-- A registry with the program and the daemon that use it. -/
structure Estate (ε : Type) where
  /-- The registry. -/
  registry : Registry ε
  /-- The owners that the program holds. -/
  held : List Owner
  /-- The owners that have begun to dispose of their handle, with what they took out of the
  table. -/
  disposing : List (Owner × Option Entry)
  /-- The owners that have released their handle or posted their notice, and are still to go. -/
  leaving : List Owner
  /-- What the daemon has taken out of the table and is still to release. -/
  hand : List (Manner × Entry)
  /-- The owners that there ever were. -/
  accepted : List Owner
  /-- The actions of the handles that were refused. -/
  refused : List ActionId
  /-- The owners that were dropped. -/
  dropped : List Owner
  /-- The actions of the entries that a sweep has taken up. -/
  swept : List ActionId

/-- A move of the program or of the daemon. -/
inductive Move (ε : Type)
  /-- The program takes a handle into ownership. -/
  | own (handle : Handle) (domain : String) (effect : ε) (panics : Option String)
  /-- An owner begins to dispose of its handle. -/
  | withdraw (owner : Owner)
  /-- It releases the handle. -/
  | settle (owner : Owner)
  /-- An owner is dropped and posts its notice. -/
  | post (owner : Owner)
  /-- An owner goes for good: its token dies. -/
  | letGo (owner : Owner)
  /-- The daemon takes up the oldest notice. -/
  | notice
  /-- The daemon takes up the orphans. -/
  | sweep
  /-- The daemon releases the first thing that it has in hand. -/
  | release

namespace Estate

variable {ε : Type}

/-- An estate without owners. -/
def start : Estate ε := ⟨.empty, [], [], [], [], [], [], [], []⟩

/-! ## The program -/

/-- Takes a handle into ownership, or is refused. -/
def own (s : Estate ε) (handle : Handle) (domain : String) (release : Release ε) : Estate ε :=
  match s.registry.own handle domain release with
  | (.ok owner, registry) =>
    { s with registry := registry, held := owner :: s.held, accepted := owner :: s.accepted }
  | (.error _, registry) =>
    { s with registry := registry, refused := s.registry.ledger.actions.length :: s.refused }

/-- A held owner takes its entry out of the table. -/
def withdraw (s : Estate ε) (owner : Owner) : Estate ε :=
  { s with
    registry := (s.registry.withdraw owner.key).2
    held := s.held.erase owner
    disposing := (owner, (s.registry.withdraw owner.key).1) :: s.disposing }

/-- An owner that has taken its entry out of the table releases its handle. -/
def settle (s : Estate ε) (owner : Owner) (taken : Option Entry) : Estate ε :=
  { s with
    registry := (s.registry.settle taken owner.action).2
    disposing := s.disposing.erase (owner, taken)
    leaving := owner :: s.leaving }

/-- A held owner is dropped. -/
def post (s : Estate ε) (owner : Owner) : Estate ε :=
  { s with
    registry := (s.registry.post owner).2
    held := s.held.erase owner
    leaving := owner :: s.leaving
    dropped := owner :: s.dropped }

/-- An owner goes for good. -/
def letGo (s : Estate ε) (owner : Owner) : Estate ε :=
  { s with registry := (s.registry.letGo owner).2, leaving := s.leaving.erase owner }

/-! ## The daemon -/

/-- The daemon takes the entry under a key into its hand, if it is there. -/
def takeUp (manner : Manner) (s : Estate ε) (key : SlotKey) : Estate ε :=
  match s.registry.withdraw key with
  | (none, _) => s
  | (some entry, registry) =>
    { s with
      registry := registry
      hand := s.hand ++ [(manner, entry)]
      swept := if manner = .sweep then entry.action :: s.swept else s.swept }

/-- The daemon takes up the oldest notice. -/
def notice (s : Estate ε) : Estate ε :=
  match s.registry.notices with
  | [] => s
  | key :: rest => takeUp .notice { s with registry := { s.registry with notices := rest } } key

/-- The daemon takes up all orphans. -/
def sweep (s : Estate ε) : Estate ε := s.registry.orphans.foldl (takeUp .sweep) s

/-- The daemon releases the first thing that it has in hand. -/
def release (s : Estate ε) : Estate ε :=
  match s.hand with
  | [] => s
  | (manner, entry) :: rest =>
    { s with registry := (s.registry.release manner entry).2, hand := rest }

section Equations

variable {s : Estate ε} {key : SlotKey} {entry : Entry}

/-- **An address that has an entry has it still**: who comes with it is refused, and the action that
was prepared is let go again. -/
theorem own_of_mem {handle : Handle} (domain : String) (release : Release ε)
    (h : handle.address ∈ s.registry.table.live) : s.own handle domain release = { s with
      registry := { s.registry with
        ledger := (((s.registry.ledger.prepare handle release).kill
          s.registry.ledger.tokens.length).letGo s.registry.ledger.actions.length).2 }
      refused := s.registry.ledger.actions.length :: s.refused } := by
  obtain ⟨abort, hown⟩ := s.registry.own_of_mem handle domain release h
  unfold own
  rw [hown]

/-- **A new address gets an entry**, and its owner is held. -/
theorem own_of_not_mem {handle : Handle} (domain : String) (release : Release ε)
    (h : handle.address ∉ s.registry.table.live) : s.own handle domain release = { s with
      registry := { s.registry with
        table := (s.registry.table.place (s.registry.nextEntry handle domain)).2
        counters := { s.registry.counters with registered := s.registry.counters.registered + 1 }
        ledger := (s.registry.ledger.prepare handle release).hold s.registry.ledger.actions.length }
      held := s.registry.nextOwner handle domain :: s.held
      accepted := s.registry.nextOwner handle domain :: s.accepted } := by
  unfold own
  rw [s.registry.own_of_not_mem handle domain release h]

/-- An entry that is in the table goes into the hand of the daemon. -/
theorem takeUp_of_take {rest : SlotTable} (manner : Manner)
    (h : s.registry.table.take key = some (entry, rest)) :
    takeUp manner s key = { s with
      registry := { s.registry with table := rest }
      hand := s.hand ++ [(manner, entry)]
      swept := if manner = .sweep then entry.action :: s.swept else s.swept } := by
  unfold takeUp
  rw [Registry.withdraw_of_take _ h]

/-- A key whose entry has left the table is passed over. -/
theorem takeUp_of_find?_eq_none (manner : Manner) (h : s.registry.table.find? key = none) :
    takeUp manner s key = s := by
  unfold takeUp
  rw [Registry.withdraw_of_find?_eq_none _ h]

/-- **The daemon takes the first notice**, and its entry into its hand. -/
theorem notice_of_take {waiting : List SlotKey} {rest : SlotTable}
    (h : s.registry.notices = key :: waiting)
    (htake : s.registry.table.take key = some (entry, rest)) : s.notice = { s with
      registry := { s.registry with table := rest, notices := waiting }
      hand := s.hand ++ [(.notice, entry)] } := by
  unfold notice
  rw [h]
  exact takeUp_of_take .notice htake

/-- A notice whose entry has left the table is dropped. -/
theorem notice_of_find?_eq_none {waiting : List SlotKey} (h : s.registry.notices = key :: waiting)
    (hfound : s.registry.table.find? key = none) :
    s.notice = { s with registry := { s.registry with notices := waiting } } := by
  unfold notice
  rw [h]
  exact takeUp_of_find?_eq_none .notice hfound

/-- **The daemon releases the first entry in its hand.** -/
theorem release_of_hand_eq {manner : Manner} {rest : List (Manner × Entry)}
    (h : s.hand = (manner, entry) :: rest) :
    s.release = { s with registry := (s.registry.release manner entry).2, hand := rest } := by
  unfold release
  rw [h]

end Equations

/-! ## Runs -/

/-- An estate after a move. A move that cannot be made changes nothing. -/
def step (s : Estate ε) : Move ε → Estate ε
  | .own handle domain effect panics => s.own handle domain ⟨effect, panics, none⟩
  | .withdraw owner => if owner ∈ s.held then s.withdraw owner else s
  | .settle owner =>
    match s.disposing.lookup owner with
    | some taken => s.settle owner taken
    | none => s
  | .post owner => if owner ∈ s.held then s.post owner else s
  | .letGo owner => if owner ∈ s.leaving then s.letGo owner else s
  | .notice => s.notice
  | .sweep => s.sweep
  | .release => s.release

/-- **What a move can be**: one of the operations on an estate, where it can be made, or nothing. -/
theorem step_induction {s : Estate ε} {motive : Estate ε → Prop} (move : Move ε)
    (own : ∀ handle domain effect panics, move = .own handle domain effect panics →
      motive (s.own handle domain ⟨effect, panics, none⟩))
    (withdraw : ∀ owner ∈ s.held, motive (s.withdraw owner))
    (settle : ∀ owner taken, (owner, taken) ∈ s.disposing → motive (s.settle owner taken))
    (post : ∀ owner ∈ s.held, motive (s.post owner))
    (letGo : ∀ owner ∈ s.leaving, motive (s.letGo owner)) (notice : motive s.notice)
    (sweep : motive s.sweep) (release : motive s.release) (nothing : motive s) :
    motive (s.step move) := by
  cases move with
  | own handle domain effect panics => exact own handle domain effect panics rfl
  | withdraw owner =>
    by_cases ho : owner ∈ s.held
    · simpa only [step, if_pos ho] using withdraw owner ho
    · simpa only [step, if_neg ho] using nothing
  | settle owner =>
    cases hlookup : s.disposing.lookup owner with
    | none => simpa only [step, hlookup] using nothing
    | some taken =>
      obtain ⟨before, later, heq, -⟩ := List.lookup_eq_some_iff.mp hlookup
      have hmem : (owner, taken) ∈ s.disposing := heq ▸ List.mem_append_right _ List.mem_cons_self
      simpa only [step, hlookup] using settle owner taken hmem
  | post owner =>
    by_cases ho : owner ∈ s.held
    · simpa only [step, if_pos ho] using post owner ho
    · simpa only [step, if_neg ho] using nothing
  | letGo owner =>
    by_cases ho : owner ∈ s.leaving
    · simpa only [step, if_pos ho] using letGo owner ho
    · simpa only [step, if_neg ho] using nothing
  | notice => exact notice
  | sweep => exact sweep
  | release => exact release

/-- An estate after several moves, one after the other. -/
def after (s : Estate ε) (moves : List (Move ε)) : Estate ε := moves.foldl step s

/-- **The estate that a run leads to.** -/
def run (moves : List (Move ε)) : Estate ε := start.after moves

theorem after_append (s : Estate ε) (first second : List (Move ε)) :
    s.after (first ++ second) = (s.after first).after second := List.foldl_append

/-- What the daemon does while it is waited for: it releases what it has in hand and then takes
up one notice after the other, until it has taken up all that are there. -/
def errands (s : Estate ε) : List (Move ε) :=
  List.replicate s.hand.length .release
    ++ (List.replicate s.registry.notices.length [.notice, .release]).flatten

/-- **Waits for the daemon**, with nothing else going on. -/
def flush (s : Estate ε) : Estate ε := s.after s.errands

/-- **Drops the registry.** The daemon finishes first. -/
def close (s : Estate ε) : Estate ε := { s.flush with registry := s.flush.registry.close.2 }

/-! ## Where entries are -/

/-- The entries that have left the table and are still to be released. -/
def moving (s : Estate ε) : List Entry := s.disposing.map (·.1.entry) ++ s.hand.map (·.2)

/-- The dropped owners whose notice still waits and whose entry no sweep has taken up. -/
def awaiting (s : Estate ε) : List Owner :=
  s.dropped.filter fun owner => owner.key ∈ s.registry.notices ∧ owner.action ∉ s.swept

/-- How often the release function of an action was entered. -/
def timesEntered (s : Estate ε) (id : ActionId) : Nat := s.registry.ledger.timesEntered id

/-- No slot of the table was vacated 2 ^ 32 times. -/
def Lasting (s : Estate ε) : Prop := s.registry.table.Lasting

instance (s : Estate ε) : Decidable s.Lasting :=
  inferInstanceAs (Decidable s.registry.table.Lasting)

end Estate

end Custody
