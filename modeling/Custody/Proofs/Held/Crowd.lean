import Custody.Proofs.Held.Steps
import Custody.Proofs.Vault.Changes

/-!
# Crowds

A registry and a native library in the hands of many threads. What an operation on held contexts
does is cut into the moments between which any other thread may come (`Crowd.Move`): a thread
makes a call of the library, and a context that it is given waits for an owner; it takes the
context into ownership; an owner goes on its way, or the daemon acts; and a release function that
has been entered frees its context, which may come any time later. A run is a list of such moves,
so that a statement about all runs is one about all interleavings.

An address that was freed may be handed out again at once, while its owner is still on its way.
That does no harm, because an entry leaves the table before its release function is entered: at
every moment, the addresses in the table are among those of the contexts that are there, and that
of a release function which is running is none of them. So whoever was given a context gets it into
ownership (`Crowd.owners_never_clash`).
-/

namespace Custody

open Held

variable {σ : Type} {library : Library σ}

/-! ## Release functions that are running -/

/-- What is entered notes the addresses that are in the table. -/
theorem Ledger.mem_entered_run {ε : Type} {ledger : Ledger ε} {live : List Address} {id : ActionId}
    {entered : Entered ε} (hmem : entered ∈ (ledger.run live id).2.entered) :
    entered ∈ ledger.entered ∨ entered.live = live := by
  rw [entered_run, List.mem_append] at hmem
  obtain hbefore | hnew := hmem
  · exact .inl hbefore
  · right
    split at hnew
    · split at hnew
      · cases hnew
      · rw [List.mem_singleton.mp hnew]
    · cases hnew

namespace Estate

/-- The moves in which no owner comes do not refuse anything. -/
theorem refused_step {ε : Type} (s : Estate ε) (move : Move ε)
    (hmove : ∀ handle domain effect panics, move ≠ .own handle domain effect panics) :
    (s.step move).refused = s.refused := by
  refine step_induction (motive := fun s' => s'.refused = s.refused)
    move ?own ?withdraw ?settle ?post ?letGo ?notice ?sweep ?release ?nothing
  case own => exact fun handle domain effect panics heq => absurd heq (hmove _ _ _ _)
  case withdraw => exact fun _ _ => rfl
  case settle => exact fun _ _ _ => rfl
  case post => exact fun _ _ => rfl
  case letGo => exact fun _ _ => rfl
  case notice => exact (SameProgram.notice s).refused
  case sweep => exact (SameProgram.takeUps .sweep _ s).refused
  case release => exact (SameProgram.release s).refused
  case nothing => rfl

/-- **A release function is entered after its entry has left the table**, so that what it notes is
the table as the move leaves it. -/
theorem live_of_mem_entered_step {ε : Type} {s : Estate ε} (h : s.Coherent) (move : Move ε)
    (hmove : ∀ handle domain effect panics, move ≠ .own handle domain effect panics) :
    ∀ entered ∈ (s.step move).registry.ledger.entered,
      entered ∈ s.registry.ledger.entered ∨ entered.live = (s.step move).registry.table.live := by
  refine step_induction (motive := fun s' => ∀ entered ∈ s'.registry.ledger.entered,
      entered ∈ s.registry.ledger.entered ∨ entered.live = s'.registry.table.live)
    move ?own ?withdraw ?settle ?post ?letGo ?notice ?sweep ?release fun _ => .inl
  case own => exact fun handle domain effect panics heq => absurd heq (hmove _ _ _ _)
  case withdraw =>
    intro owner ho entered hmem
    obtain ⟨rest, htake⟩ := h.take_of_held ho
    rw [withdraw, Registry.withdraw_of_take _ htake] at hmem
    exact .inl hmem
  case settle =>
    intro owner taken ho entered hmem
    -- The entry was taken out when the disposal began, and the table has not got it back.
    obtain ⟨-, htaken⟩ := h.own_entry _ ho
    obtain rfl : taken = some owner.entry := htaken
    rw [settle, Registry.settle_some_ledger, Ledger.entered_letGo] at hmem
    rw [settle, Registry.settle_table]
    exact Ledger.mem_entered_run hmem
  case post =>
    intro owner _ entered hmem
    rw [post, Registry.post_of_daemon _ _ h.daemon] at hmem
    exact .inl hmem
  case letGo =>
    intro owner _ entered hmem
    rw [letGo, Registry.letGo_snd, Ledger.entered_letGo] at hmem
    exact .inl hmem
  case notice =>
    rw [ledger_notice]
    exact fun _ => .inl
  case sweep =>
    rw [sweep, ledger_takeUps]
    exact fun _ => .inl
  case release =>
    cases hhand : s.hand with
    | nil =>
      rw [release, hhand]
      exact fun _ => .inl
    | cons first rest =>
      obtain ⟨manner, entry⟩ := first
      rw [release_of_hand_eq hhand]
      intro entered hmem
      rw [Registry.release_ledger, Ledger.entered_letGo] at hmem
      exact Ledger.mem_entered_run hmem

end Estate

/-- The contexts that a registry answers for are those in its table and others, so that no other
context of the library has an address that is in the table. -/
theorem Library.Lets.address_not_mem_live {recorded : Recorded σ} {s : Estate Domain}
    {waiting freeing : List (Address × Domain)} {context : Address × Domain}
    (h : library.Lets recorded (waiting ++ (freeing ++ s.tenants))) (hcoherent : s.Coherent)
    (hmem : context ∈ waiting ++ freeing) : context.1 ∉ s.registry.table.live := by
  intro hlive
  obtain ⟨entry, hentry, heq⟩ := hcoherent.books.sound.mem_live.mp hlive
  have htenant := mem_tenants_addresses hcoherent (List.mem_append_left s.moving hentry)
  rw [heq] at htenant
  -- There would be two on the list with its address.
  have hnodup := h.nodup
  rw [← List.append_assoc, List.map_append] at hnodup
  exact (List.nodup_append.mp hnodup).2.2 _ (List.mem_map.mpr ⟨context, hmem, rfl⟩) _ htenant rfl

/-! ## Crowds and their moves -/

/-- A registry and a library in the hands of many threads. -/
structure Crowd (σ : Type) where
  /-- The registry with its owners and its daemon. -/
  estate : Estate Domain
  /-- The library. -/
  native : Recorded σ
  /-- The contexts that a thread has been given and not yet taken into ownership. -/
  pending : List (Address × Domain)

namespace Crowd

/-- What a thread may do at a moment. -/
inductive Move
  /-- It makes a call of the library, other than to free a context. -/
  | call (call : Call)
  /-- It takes a context that it has been given into ownership. -/
  | own (handle : Handle) (domain : Domain)
  /-- An owner goes on its way, or the daemon acts. -/
  | act (move : Custody.Move Domain)
  /-- A release function that is running frees its context. -/
  | free (entered : Entered Domain)

/-- The release functions that were entered and have not freed their contexts yet. -/
def running (crowd : Crowd σ) : List (Entered Domain) := crowd.estate.registry.ledger.entered

/-- The addresses that have an entry in the table. -/
def live (crowd : Crowd σ) : List Address := crowd.estate.registry.table.live

/-- A crowd over a library, before its first move. -/
def start (native : σ) : Crowd σ := ⟨.start, ⟨native, []⟩, []⟩

/-- Whether a move takes a handle into ownership. -/
def Owns (move : Custody.Move Domain) : Prop :=
  ∃ handle domain effect panics, move = .own handle domain effect panics

instance : DecidablePred Owns := fun move =>
  match move with
  | .own handle domain effect panics => isTrue ⟨handle, domain, effect, panics, rfl⟩
  | .withdraw _ | .settle _ | .post _ | .letGo _ | .notice | .sweep | .release =>
    isFalse (by rintro ⟨_, _, _, _, h⟩; cases h)

/-- A crowd after a move. A move that cannot be made changes nothing. -/
def step (library : Library σ) (crowd : Crowd σ) : Move → Crowd σ
  | .call call =>
    if call.frees? = none then
      { crowd with
        native := library.after crowd.native call
        pending := (library.note crowd.native.state call).granted?.toList ++ crowd.pending }
    else crowd
  | .own handle domain =>
    if (handle.address, domain) ∈ crowd.pending then
      { crowd with
        estate := crowd.estate.own handle domain.name (.plain domain)
        pending := crowd.pending.erase (handle.address, domain) }
    else crowd
  | .act move => if Owns move then crowd else { crowd with estate := crowd.estate.step move }
  | .free entered =>
    if entered ∈ crowd.running then
      { crowd with
        estate := crowd.estate.withRunning (crowd.running.erase entered)
        native := library.after crowd.native entered.disposal }
    else crowd

/-- A crowd after several moves, one after the other. -/
def after (library : Library σ) (crowd : Crowd σ) (moves : List Move) : Crowd σ :=
  moves.foldl (step library) crowd

/-- **What a move can be**: one that can be made, or nothing. -/
theorem step_induction {crowd : Crowd σ} {motive : Crowd σ → Prop} (move : Move)
    (call : ∀ call : Call, call.frees? = none → motive { crowd with
      native := library.after crowd.native call
      pending := (library.note crowd.native.state call).granted?.toList ++ crowd.pending })
    (own : ∀ (handle : Handle) domain, (handle.address, domain) ∈ crowd.pending →
      motive { crowd with
        estate := crowd.estate.own handle domain.name (.plain domain)
        pending := crowd.pending.erase (handle.address, domain) })
    (act : ∀ move, ¬ Owns move → motive { crowd with estate := crowd.estate.step move })
    (free : ∀ entered ∈ crowd.running, motive { crowd with
      estate := crowd.estate.withRunning (crowd.running.erase entered)
      native := library.after crowd.native entered.disposal })
    (nothing : motive crowd) : motive (crowd.step library move) := by
  cases move with
  | call made =>
    by_cases h : made.frees? = none
    · simpa only [step, if_pos h] using call made h
    · simpa only [step, if_neg h] using nothing
  | own handle domain =>
    by_cases h : (handle.address, domain) ∈ crowd.pending
    · simpa only [step, if_pos h] using own handle domain h
    · simpa only [step, if_neg h] using nothing
  | act made =>
    by_cases h : Owns made
    · simpa only [step, if_pos h] using nothing
    · simpa only [step, if_neg h] using act made h
  | free entered =>
    by_cases h : entered ∈ crowd.running
    · simpa only [step, if_pos h] using free entered h
    · simpa only [step, if_neg h] using nothing

/-! ## What is asked of a run -/

/-- **What is asked of a crowd**: its slots last, and its contexts came at new addresses. -/
structure Fit (library : Library σ) (crowd : Crowd σ) : Prop where
  /-- No slot was vacated 2 ^ 32 times. -/
  lasting : crowd.estate.Lasting
  /-- New contexts came at new addresses. -/
  fresh : library.Fresh crowd.native.log

/-- **A crowd later on.** -/
abbrev Grows (library : Library σ) (crowd crowd' : Crowd σ) : Prop :=
  Later library crowd.estate.registry crowd'.estate.registry crowd.native crowd'.native

variable {crowd crowd' : Crowd σ}

namespace Grows

/-- What is asked of a crowd holds of every crowd before. -/
theorem fit (h : Grows library crowd crowd') (hfit : Fit library crowd') : Fit library crowd :=
  ⟨h.lasting hfit.lasting, h.fresh hfit.fresh⟩

theorem step (crowd : Crowd σ) (move : Move) : Grows library crowd (crowd.step library move) := by
  refine step_induction (motive := Grows library crowd) move ?call ?own ?act ?free Later.refl
  case call => exact fun call _ => ⟨.refl _, [call], rfl⟩
  case own => exact fun handle domain _ => ⟨Estate.ages_own _ _ _ _, [], rfl⟩
  case act => exact fun move _ => ⟨Estate.ages_step _ move, [], rfl⟩
  case free => exact fun entered _ => ⟨.of_table_eq rfl, [entered.disposal], rfl⟩

theorem after (crowd : Crowd σ) (moves : List Move) :
    Grows library crowd (crowd.after library moves) := by
  induction moves generalizing crowd with
  | nil => exact Later.refl
  | cons move moves ih => exact (step crowd move).trans (ih (crowd.step library move))

end Grows

/-! ## Crowds in order -/

/-- **A crowd is in order**: every context of the library waits for an owner, is about to be freed
by a release function that is running, or is one that the registry answers for, and nothing was
refused so far. -/
structure Sound (library : Library σ) (crowd : Crowd σ) : Prop where
  /-- The estate is coherent. -/
  coherent : crowd.estate.Coherent
  /-- Nobody was refused. -/
  accepted : crowd.estate.refused = []
  /-- Somebody answers for every context. -/
  lets : library.Lets crowd.native
    (crowd.pending ++ (crowd.running.map Entered.context ++ crowd.estate.tenants))
  /-- No release function was entered while its address was in the table. -/
  ordered : ∀ entered ∈ crowd.running, entered.handle.address ∉ entered.live

namespace Sound

/-- A crowd over a library without contexts. -/
theorem start {native : σ} (hempty : ∀ address, library.kindAt native address = none) :
    Sound library (Crowd.start native) where
  coherent := Estate.coherent_start
  accepted := rfl
  lets := ⟨List.nodup_nil, fun address _ =>
    ⟨fun h => (Option.some_ne_none _ (h.symm.trans (hempty address))).elim, nofun⟩⟩
  ordered := nofun

/-- **The addresses in the table are those of contexts that are there.** -/
theorem there_of_live (h : Sound library crowd) {address : Address} (hlive : address ∈ crowd.live) :
    ∃ domain, library.recordedAt crowd.native address = some domain := by
  obtain ⟨entry, hmem, rfl⟩ := h.coherent.books.sound.mem_live.mp hlive
  obtain ⟨⟨_, domain⟩, htenant, heq⟩ := List.mem_map.mp
    (mem_tenants_addresses h.coherent (List.mem_append_left crowd.estate.moving hmem))
  obtain rfl : _ = entry.address := heq
  exact ⟨domain, (h.lets.there _ _).mpr
    (List.mem_append_right _ (List.mem_append_right _ htenant))⟩

/-- A context that waits for an owner or is about to be freed is not in the table. -/
theorem not_mem_live (h : Sound library crowd) {context : Address × Domain}
    (hmem : context ∈ crowd.pending ++ crowd.running.map Entered.context) :
    context.1 ∉ crowd.live := h.lets.address_not_mem_live h.coherent hmem

/-! ## Moves -/

/-- A call that frees nothing. A context that it makes waits for an owner. -/
theorem call (h : Sound library crowd) {call : Call} (hfrees : call.frees? = none)
    (hfresh : library.Fresh (library.after crowd.native call).log) :
    Sound library { crowd with
      native := library.after crowd.native call
      pending := (library.note crowd.native.state call).granted?.toList ++ crowd.pending } := by
  refine ⟨h.coherent, h.accepted, ?_, h.ordered⟩
  cases hgranted : (library.note crowd.native.state call).granted? with
  | none =>
    refine ⟨h.lets.nodup, fun address domain => ?_⟩
    rw [Library.recordedAt_after, Call.kindAfter_of_ne, h.lets.there]
    · rfl
    · intro other hother
      exact absurd (hgranted.symm.trans hother) nofun
    · intro other hother
      rw [hfrees] at hother
      cases hother
  | some made =>
    rw [Library.log_after, Library.fresh_append, Library.fresh_cons] at hfresh
    obtain ⟨-, hnew⟩ := hfresh.2.1 _ hgranted
    exact h.lets.grant hgranted hnew

/-- **A context that waits for an owner gets one.** -/
theorem own (h : Sound library crowd) (hlast : crowd.estate.Lasting) {handle : Handle}
    {domain : Domain} (hpending : (handle.address, domain) ∈ crowd.pending) :
    Sound library { crowd with
      estate := crowd.estate.own handle domain.name (.plain domain)
      pending := crowd.pending.erase (handle.address, domain) } := by
  have hout : handle.address ∉ crowd.estate.registry.table.live :=
    h.not_mem_live (List.mem_append_left _ hpending)
  have hown := Estate.own_of_not_mem domain.name (.plain domain) hout
  have hrunning : (crowd.estate.own handle domain.name (.plain domain)).registry.ledger.entered
      = crowd.running := by
    rw [hown]
    rfl
  refine ⟨h.coherent.own hlast handle domain.name rfl, ?_, ?_, ?_⟩
  · rw [hown]
    exact h.accepted
  · have htenants : (crowd.estate.own handle domain.name (.plain domain)).tenants.Perm
        ((handle.address, domain) :: crowd.estate.tenants) :=
      tenants_own domain.name hout h.coherent
    refine h.lets.perm (((List.perm_cons_erase hpending).append_right _).trans ?_)
    rw [List.cons_append, show Crowd.running { crowd with
      estate := crowd.estate.own handle domain.name (.plain domain)
      pending := crowd.pending.erase (handle.address, domain) } = crowd.running from hrunning]
    refine List.perm_middle.symm.trans (List.Perm.append_left _ ?_)
    exact List.perm_middle.symm.trans (htenants.symm.append_left _)
  · intro entered hentered
    rw [Crowd.running, hrunning] at hentered
    exact h.ordered entered hentered

/-- An owner goes on its way, or the daemon acts. -/
theorem act (h : Sound library crowd) {move : Custody.Move Domain} (hmove : ¬ Owns move)
    (hlast : (crowd.estate.step move).Lasting) :
    Sound library { crowd with estate := crowd.estate.step move } := by
  have hspares : ∀ handle domain effect panics, move ≠ .own handle domain effect panics :=
    fun handle domain effect panics heq => hmove ⟨handle, domain, effect, panics, heq⟩
  obtain ⟨released, entered, hdischarge⟩ := Estate.Discharge.step h.coherent move hspares
  have hcoherent : (crowd.estate.step move).Coherent := h.coherent.step move hlast
  have haccepted : (crowd.estate.step move).refused = [] := by
    rw [Estate.refused_step _ _ hspares]
    exact h.accepted
  -- What the registry does not answer for any more is about to be freed.
  have hlets : library.Lets crowd.native (crowd.pending
      ++ ((crowd.estate.step move).registry.ledger.entered.map Entered.context
        ++ (crowd.estate.step move).tenants)) := by
    rw [hdischarge.history, List.map_append, List.append_assoc]
    exact h.lets.perm ((hdischarge.tenants_perm.append_left _).append_left _)
  refine ⟨hcoherent, haccepted, hlets, fun other hother => ?_⟩
  obtain hbefore | hlive := Estate.live_of_mem_entered_step h.coherent move hspares other hother
  · exact h.ordered other hbefore
  · rw [hlive]
    exact hlets.address_not_mem_live hcoherent
      (List.mem_append_right _ (List.mem_map.mpr ⟨other, hother, rfl⟩))

/-- **A release function frees its context.** -/
theorem free (h : Sound library crowd) {entered : Entered Domain}
    (hrunning : entered ∈ crowd.running) : Sound library { crowd with
      estate := crowd.estate.withRunning (crowd.running.erase entered)
      native := library.after crowd.native entered.disposal } := by
  refine ⟨h.coherent.withRunning _, h.accepted, ?_, fun other hother =>
    h.ordered other (List.mem_of_mem_erase hother)⟩
  have hfirst := (List.perm_cons_erase hrunning).map Entered.context
  have hlets : library.Lets crowd.native (entered.context :: (crowd.pending
      ++ ((crowd.running.erase entered).map Entered.context ++ crowd.estate.tenants))) :=
    h.lets.perm (((hfirst.append_right _).append_left _).trans List.perm_middle)
  exact hlets.freed (Domain.frees?_disposal _ _)

theorem step (h : Sound library crowd) {move : Move}
    (hfit : Fit library (crowd.step library move)) : Sound library (crowd.step library move) := by
  have hlast := ((Grows.step crowd move).fit hfit).lasting
  revert hfit
  refine step_induction (motive := fun crowd' => Fit library crowd' → Sound library crowd')
    move ?call ?own ?act ?free fun _ => h
  case call => exact fun call hfrees hfit => h.call hfrees hfit.fresh
  case own => exact fun handle domain hpending _ => h.own hlast hpending
  case act => exact fun move hmove hfit => h.act hmove hfit.lasting
  case free => exact fun entered hrunning _ => h.free hrunning

/-- **Every run keeps a crowd in order.** -/
theorem after (h : Sound library crowd) {moves : List Move}
    (hfit : Fit library (crowd.after library moves)) :
    Sound library (crowd.after library moves) := by
  induction moves generalizing crowd with
  | nil => exact h
  | cons move moves ih => exact ih (h.step ((Grows.after _ moves).fit hfit)) hfit

end Sound

/-! ## Steps of a world -/

theorem after_acts (moves : List (Custody.Move Domain)) (hmoves : ∀ move ∈ moves, ¬ Owns move)
    (crowd : Crowd σ) : crowd.after library (moves.map .act)
      = { crowd with estate := crowd.estate.after moves } := by
  induction moves generalizing crowd with
  | nil => rfl
  | cons move moves ih =>
    obtain ⟨hmove, hrest⟩ := List.forall_mem_cons.mp hmoves
    have hfirst : crowd.step library (.act move)
        = { crowd with estate := crowd.estate.step move } := if_neg hmove
    rw [List.map_cons, after, List.foldl_cons, hfirst]
    exact ih hrest _

/-- Everything that is running frees its context, in the order in which it was entered. -/
theorem after_frees (crowd : Crowd σ) : crowd.after library (crowd.running.map .free) = { crowd with
      estate := crowd.estate.withRunning []
      native := library.afterAll crowd.native (crowd.running.map Entered.disposal) } := by
  generalize hrunning : crowd.running = running
  induction running generalizing crowd with
  | nil =>
    have hnone : crowd.estate.withRunning [] = crowd.estate := Estate.withRunning_nil hrunning
    rw [hnone]
    rfl
  | cons entered running ih =>
    have hfirst : crowd.step library (.free entered) = { crowd with
        estate := crowd.estate.withRunning running
        native := library.after crowd.native entered.disposal } := by
      have hmem : entered ∈ crowd.running := by
        rw [hrunning]
        exact List.mem_cons_self
      rw [step, if_pos hmem, hrunning, List.erase_cons_head]
    rw [List.map_cons, after, List.foldl_cons, hfirst]
    exact ih _ rfl

/-- **A step of a world in which its registry acts** is a run of a crowd with the same registry and
library: the moves that the registry makes, after which everything that was entered frees its
context. -/
theorem custody_eq_after {α : Type} {world : World (Recorded σ)} {crowd : Crowd σ}
    {step : Registry Domain → α × Registry Domain} {moves : List (Custody.Move Domain)}
    (hnative : world.native = crowd.native) (hmoves : ∀ move ∈ moves, ¬ Owns move)
    (hstep : (crowd.estate.after moves).registry = (step world.registry).2) :
    let crowd' := crowd.after library
      (moves.map .act ++ (crowd.estate.after moves).registry.ledger.entered.map .free)
    (World.custody library.services step world).2.registry = crowd'.estate.registry
      ∧ (World.custody library.services step world).2.native = crowd'.native := by
  intro crowd'
  have hcrowd : crowd' = ({ crowd with estate := crowd.estate.after moves } : Crowd σ).after library
      ((crowd.estate.after moves).registry.ledger.entered.map .free) := by
    rw [← after_acts moves hmoves]
    exact List.foldl_append
  have hfrees : crowd' = { crowd with
      estate := (crowd.estate.after moves).withRunning []
      native := library.afterAll crowd.native
        ((crowd.estate.after moves).registry.ledger.entered.map Entered.disposal) } :=
    hcrowd.trans (after_frees _)
  rw [hfrees]
  refine ⟨?_, ?_⟩
  · rw [Estate.withRunning, hstep]
    rfl
  · rw [hstep, ← hnative]
    exact snd_free _ _

/-! ## Owners -/

/-- **Owners never clash**, whatever a crowd does, and though an address that was freed may be
handed out again at once. At every moment of a run:

* the addresses in the table are among those of the contexts that are there;
* the context of a release function that is running is still there, and its address is not in the
  table, nor was it when the release function was entered;
* whoever was given a context is not refused when it is to be taken into ownership.

So nobody was refused in the whole run. -/
theorem owners_never_clash (library : Library σ) {native : σ} (earlier later : List Move)
    (hempty : ∀ address, library.kindAt native address = none)
    (hfit : Fit library ((start native).after library (earlier ++ later))) :
    let crowd := (start native).after library earlier
    (∀ address ∈ crowd.live, ∃ domain, library.recordedAt crowd.native address = some domain)
    ∧ (∀ entered ∈ crowd.running,
      library.recordedAt crowd.native entered.handle.address = some entered.effect
      ∧ entered.handle.address ∉ crowd.live ∧ entered.handle.address ∉ entered.live)
    ∧ (∀ handle domain, (Handle.address handle, domain) ∈ crowd.pending →
      ∃ owner, (crowd.estate.registry.own handle domain.name (.plain domain)).1 = .ok owner)
    ∧ ((start native).after library (earlier ++ later)).estate.refused = [] := by
  intro crowd
  have hmoves : (start native).after library (earlier ++ later) = crowd.after library later :=
    List.foldl_append
  rw [hmoves] at hfit ⊢
  have h : Sound library crowd := (Sound.start hempty).after ((Grows.after crowd later).fit hfit)
  refine ⟨fun _ => h.there_of_live, fun entered hentered => ?_, fun handle domain hpending => ?_,
    (h.after hfit).accepted⟩
  · have hcontext : entered.context ∈ crowd.running.map Entered.context :=
      List.mem_map.mpr ⟨entered, hentered, rfl⟩
    exact ⟨(h.lets.there _ _).mpr (List.mem_append_right _ (List.mem_append_left _ hcontext)),
      h.not_mem_live (List.mem_append_right _ hcontext), h.ordered entered hentered⟩
  · have hout : handle.address ∉ crowd.estate.registry.table.live :=
      h.not_mem_live (List.mem_append_left _ hpending)
    rw [Registry.own_of_not_mem _ _ _ _ hout]
    exact ⟨_, rfl⟩

/-- The owner of a key in the example. -/
def exampleKey : Owner :=
  let handle : Handle := ⟨0x10, by decide⟩
  ⟨⟨0, 0⟩, 0, 0, handle, Owner.labelFor "KeySpec" handle⟩

/-- The owner of a digest in the example. -/
def exampleDigest : Owner :=
  let handle : Handle := ⟨0x20, by decide⟩
  ⟨⟨0, 1⟩, 1, 1, handle, Owner.labelFor "Digest" handle⟩

/-- A run of two threads. One disposes of a key, and its release function is running while the other
makes a digest at another address and drops it. -/
def exampleEarlier : List Move :=
  [.call (.keyAllocate true), .own exampleKey.handle .keySpec, .act (.withdraw exampleKey),
    .act (.settle exampleKey), .call (.digestAllocate (some (Text.utf8 "BLAKE3")) 0 true),
    .own exampleDigest.handle .digest, .act (.post exampleDigest)]

/-- The rest of the run. When the key has been freed, its address goes to a signature. The daemon
sweeps before it takes the notice. -/
def exampleLater : List Move :=
  [.free ⟨0, exampleKey.handle, .keySpec, []⟩, .call (.signatureAllocate true),
    .own exampleKey.handle .signature, .act (.letGo exampleKey), .act (.letGo exampleDigest),
    .act .sweep, .act .release, .act .notice, .free ⟨1, exampleDigest.handle, .digest, [0x10]⟩]

/-- The first two calls and the fourth get an address each; the third frees a context. -/
def exampleSession : Session :=
  Session.start fun n => ⟨if n = 1 then 0x20 else 0x10, some (.ofNat 0)⟩

/-- The crowd while the release function of the key is running. -/
def exampleMoment : Crowd Session :=
  (start exampleSession).after (Library.vault .dispatch) exampleEarlier

/-- The crowd in the end. -/
def exampleEnd : Crowd Session :=
  (start exampleSession).after (Library.vault .dispatch) (exampleEarlier ++ exampleLater)

/-- While the release function of the key is running, the digest is in the table, and in the end
the signature is, at the address that the key had. -/
theorem owners_never_clash_exampleLater :
    Fit (.vault .dispatch) exampleEnd
    ∧ exampleMoment.live = [0x20]
    ∧ exampleMoment.running = [⟨0, exampleKey.handle, .keySpec, []⟩]
    ∧ (∀ entered ∈ exampleMoment.running,
      (Library.vault .dispatch).recordedAt exampleMoment.native entered.handle.address
        = some entered.effect)
    ∧ exampleEnd.native.log.filterMap Note.granted?
      = [(0x10, .keySpec), (0x20, .digest), (0x10, .signature)]
    ∧ exampleEnd.live = [0x10]
    ∧ exampleEnd.estate.refused = [] := by
  have hfit : Fit (.vault .dispatch) exampleEnd := ⟨by decide +kernel, by decide +kernel⟩
  have hlive : exampleMoment.live = [0x20] := by decide +kernel
  have hrunning : exampleMoment.running = [⟨0, exampleKey.handle, .keySpec, []⟩] := by
    decide +kernel
  have hmade : exampleEnd.native.log.filterMap Note.granted?
      = [(0x10, .keySpec), (0x20, .digest), (0x10, .signature)] := by decide +kernel
  have hlater : exampleEnd.live = [0x10] := by decide +kernel
  unfold exampleMoment exampleEnd at *
  obtain ⟨-, hfreeing, -, hrefused⟩ := owners_never_clash (.vault .dispatch) exampleEarlier
    exampleLater (fun _ => rfl) hfit
  exact ⟨hfit, hlive, hrunning, fun entered hmem => (hfreeing entered hmem).1, hmade, hlater,
    hrefused⟩

end Crowd

namespace Held

variable {stake : Stake} {domain : Domain} {world : World (Recorded σ)}

/-- A context that waits for an owner is not refused. -/
theorem exists_own_eq_ok {handle : Handle} (name : String)
    (h : Stands library (stake.await handle.address domain) world)
    (hfit : Held.Fit library (entrust library.services
      (fun registry => registry.own handle name (.plain domain)) world).2) :
    ∃ owner, (entrust library.services
      (fun registry => registry.own handle name (.plain domain)) world).1 = .ok owner := by
  have hkeeps : Keeps library (stake.await handle.address domain)
      (World.pause library.services) := keeps_pause
  have hpaused := (hkeeps world).2
  have hlater : Held.Grows library (World.pause library.services world).2
      (entrust library.services
        (fun registry => registry.own handle name (.plain domain)) world).2 :=
    grows_custody (fun registry => .own registry handle name _) _
  obtain ⟨s, hs⟩ := hpaused (hlater.fit hfit) h
  refine ⟨s.registry.nextOwner handle name, ?_⟩
  show (Registry.own (World.pause library.services world).2.registry handle name (.plain domain)).1
    = _
  rw [hs.registry, Registry.own_of_not_mem _ _ _ _ (not_mem_live hs)]

/-- **A constructor fails only where the library does not give it a context**: in a world that is in
order, what it has been given it gets into ownership. -/
theorem acquire_eq_error {request : Request} (hmakes : request.makes? = some domain)
    (h : Stands library stake world)
    (hfit : Held.Fit library (acquire library.services domain request world).2) {abort : Abort}
    (herror : (acquire library.services domain request world).1 = .error abort) :
    (ask library.services ((domain.backend library.services).allocate request) world).1
      = .error abort := by
  have hbackend : domain.backend library.services = library.backend.recorded := by
    cases domain <;> rfl
  have hacquire : acquire library.services domain request world = ExceptT.bindCont
      (fun handle => show Work (Recorded σ) Owner from entrust library.services
        fun registry => registry.own handle domain.name (.plain domain))
      (ask library.services (library.backend.recorded.allocate request) world).1
      (ask library.services (library.backend.recorded.allocate request) world).2 := by
    rw [← hbackend]
    rfl
  have hallocate : Runs library stake
      (ask library.services (library.backend.recorded.allocate request))
      (stake.upon fun handle => stake.await handle.address domain) := runs_allocate hmakes
  have hstands := (hallocate world).2
  rw [hacquire] at hfit herror
  rw [hbackend]
  cases hresult : (ask library.services (library.backend.recorded.allocate request) world).1 with
  | error failed =>
    rw [hresult] at herror
    obtain rfl : failed = abort := Except.error.inj herror
    rfl
  | ok handle =>
    -- A handle that was given gets its owner, so that there is no failure here.
    rw [hresult] at hfit herror hstands
    have hown : Runs library (stake.await handle.address domain)
        (entrust library.services
          fun registry => registry.own handle domain.name (.plain domain))
        (stake.upon fun owner => stake.hold owner domain) := runs_own handle domain.name
    obtain ⟨owner, howner⟩ := exists_own_eq_ok domain.name (hstands ((hown _).1.fit hfit) h) hfit
    exact absurd (howner.symm.trans herror) nofun

end Held

end Custody
