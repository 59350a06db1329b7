import Custody.Registry.Ledger
import Mathlib.Data.List.Count

/-!
# Ledgers through their views

What is done to a ledger is seen through a few functions of it: whether an action is done
(`Ledger.isCompleted`), how often its release function was entered (`Ledger.timesEntered`),
whether a token is alive (`Ledger.isAlive`), and how many actions and tokens there are. Each
operation has its law for each of these views, and nothing else about the lists is used further
on.

Two properties of a whole ledger come with that. In a ledger that is `Tallied` a release
function was entered once if its action is done and never otherwise. In one that is `Quiet` no
release function panics when it is destroyed.

The laws have a common form. On the left stands a view of the ledger after an operation, on the
right the same view before it, with the one action or token that the operation is about as an
exception. Laws without an exception are tagged for the simplifier. The lists of actions and tokens
only ever grow at their end, so that the number of an action is its position for good.
-/

namespace Custody.Ledger

variable {ε : Type} (ledger : Ledger ε)

/-- How often the release function of an action was entered. -/
def timesEntered (id : ActionId) : Nat := ledger.entered.countP (·.action = id)

/-- The release function of an action. -/
def releaseOf? (id : ActionId) : Option (Release ε) := ledger.actions[id]?.map (·.release)

/-- The handle of an action. -/
def handleOf? (id : ActionId) : Option Handle := ledger.actions[id]?.map (·.handle)

/-- What entering the release function of an action does to the world. -/
def effectOf? (id : ActionId) : Option ε := (ledger.releaseOf? id).map (·.effect)

/-- Whether the release function of an action panics. -/
def panics (id : ActionId) : Bool := (ledger.releaseOf? id).any fun release => release.panics.isSome

/-- The ledger with a new action and a new token, as they are made for a new owner. -/
def prepare (handle : Handle) (release : Release ε) : Ledger ε :=
  ((ledger.addAction handle release).2.addToken).2

/-- Every release function was entered once if its action is done, and never otherwise. -/
def Tallied : Prop := ∀ id, ledger.timesEntered id = (ledger.isCompleted id).toNat

/-- Every release function can be destroyed without a panic. -/
def Quiet : Prop := ∀ id release, ledger.releaseOf? id = some release → release.bursts = none

/-- What has no number yet is not done. -/
theorem isCompleted_of_le {id : ActionId} (h : ledger.actions.length ≤ id) :
    ledger.isCompleted id = false := by
  rw [isCompleted, List.getElem?_eq_none h]
  rfl

/-- A token that is alive has been given out. -/
theorem lt_of_isAlive {token : TokenId} (h : ledger.isAlive token = true) :
    token < ledger.tokens.length := by
  unfold isAlive at h
  cases hget : ledger.tokens[token]? with
  | none => simp [hget] at h
  | some alive => exact (List.getElem?_eq_some_iff.mp hget).1

/-- An action that is bound to a handle has a number. -/
theorem lt_of_handleOf? {id : ActionId} {handle : Handle}
    (h : ledger.handleOf? id = some handle) : id < ledger.actions.length := by
  unfold handleOf? at h
  cases hget : ledger.actions[id]? with
  | none => simp [hget] at h
  | some action => exact (List.getElem?_eq_some_iff.mp hget).1

/-- Whether a ledger is tallied depends on nothing but what was entered and what is done. -/
theorem Tallied.of_views {ledger ledger' : Ledger ε} (h : ledger.Tallied)
    (hentered : ledger'.entered = ledger.entered)
    (hdone : ∀ id, ledger'.isCompleted id = ledger.isCompleted id) : ledger'.Tallied := by
  intro id
  rw [timesEntered, hentered, hdone]
  exact h id

/-- Nothing has been entered in a ledger without actions. -/
theorem tallied_empty : (empty : Ledger ε).Tallied := fun _ => rfl

theorem quiet_empty : (empty : Ledger ε).Quiet := fun _ _ h => by cases h

/-! ## New actions and tokens -/

section Additions

/-- The items of a list with one more at its end. -/
theorem getElem?_snoc {α : Type} (l : List α) (a : α) (i : Nat) :
    (l ++ [a])[i]? = if i = l.length then some a else l[i]? := by
  by_cases h : i = l.length
  · simp [h]
  · rw [if_neg h, List.getElem?_append]
    split
    · rfl
    · rw [List.getElem?_eq_none (by simp; omega), List.getElem?_eq_none (by omega)]

variable (handle : Handle) (release : Release ε) (id : ActionId) (token : TokenId)

@[simp] theorem addAction_fst : (ledger.addAction handle release).1 = ledger.actions.length := rfl

@[simp] theorem length_actions_addAction :
    (ledger.addAction handle release).2.actions.length = ledger.actions.length + 1 :=
  List.length_append

@[simp] theorem tokens_addAction :
    (ledger.addAction handle release).2.tokens = ledger.tokens := rfl

@[simp] theorem entered_addAction :
    (ledger.addAction handle release).2.entered = ledger.entered := rfl

/-- The new action stands at the end. -/
theorem getElem?_addAction : (ledger.addAction handle release).2.actions[id]?
    = if id = ledger.actions.length then some ⟨handle, release, false, 1⟩
      else ledger.actions[id]? := by
  exact getElem?_snoc _ _ _

/-- A new action is not done. -/
@[simp] theorem isCompleted_addAction :
    (ledger.addAction handle release).2.isCompleted id = ledger.isCompleted id := by
  unfold isCompleted
  rw [getElem?_addAction]
  split
  · rename_i hid
    rw [hid, List.getElem?_eq_none (Nat.le_refl _)]
    rfl
  · rfl

/-- A new action has its release function, and the others have theirs. -/
theorem releaseOf?_addAction : (ledger.addAction handle release).2.releaseOf? id
    = if id = ledger.actions.length then some release else ledger.releaseOf? id := by
  unfold releaseOf?
  rw [getElem?_addAction]
  split
  · rfl
  · rfl

/-- A new action has its handle, and the others have theirs. -/
theorem handleOf?_addAction : (ledger.addAction handle release).2.handleOf? id
    = if id = ledger.actions.length then some handle else ledger.handleOf? id := by
  unfold handleOf?
  rw [getElem?_addAction]
  split
  · rfl
  · rfl

@[simp] theorem addToken_fst : ledger.addToken.1 = ledger.tokens.length := rfl

@[simp] theorem actions_addToken : ledger.addToken.2.actions = ledger.actions := rfl

@[simp] theorem entered_addToken : ledger.addToken.2.entered = ledger.entered := rfl

@[simp] theorem length_tokens_addToken :
    ledger.addToken.2.tokens.length = ledger.tokens.length + 1 :=
  List.length_append

/-- A new token is alive. -/
theorem isAlive_addToken : ledger.addToken.2.isAlive token
    = if token = ledger.tokens.length then true else ledger.isAlive token := by
  unfold isAlive
  rw [show ledger.addToken.2.tokens = ledger.tokens ++ [true] from rfl, getElem?_snoc]
  split
  · rfl
  · rfl

@[simp] theorem length_actions_prepare :
    (ledger.prepare handle release).actions.length = ledger.actions.length + 1 :=
  ledger.length_actions_addAction handle release

@[simp] theorem length_tokens_prepare :
    (ledger.prepare handle release).tokens.length = ledger.tokens.length + 1 :=
  (ledger.addAction handle release).2.length_tokens_addToken

@[simp] theorem entered_prepare : (ledger.prepare handle release).entered = ledger.entered := rfl

@[simp] theorem isCompleted_prepare :
    (ledger.prepare handle release).isCompleted id = ledger.isCompleted id :=
  ledger.isCompleted_addAction handle release id

theorem releaseOf?_prepare : (ledger.prepare handle release).releaseOf? id
    = if id = ledger.actions.length then some release else ledger.releaseOf? id :=
  ledger.releaseOf?_addAction handle release id

theorem handleOf?_prepare : (ledger.prepare handle release).handleOf? id
    = if id = ledger.actions.length then some handle else ledger.handleOf? id :=
  ledger.handleOf?_addAction handle release id

/-- A new action has the effect of its release function. -/
theorem effectOf?_prepare : (ledger.prepare handle release).effectOf? id
    = if id = ledger.actions.length then some release.effect else ledger.effectOf? id := by
  rw [effectOf?, releaseOf?_prepare]
  split
  · rfl
  · rfl

/-- **The new token is alive**, and the others are as they were. -/
theorem isAlive_prepare : (ledger.prepare handle release).isAlive token
    = if token = ledger.tokens.length then true else ledger.isAlive token :=
  (ledger.addAction handle release).2.isAlive_addToken token

/-- A ledger stays quiet if what its new action captures can be destroyed. -/
theorem Quiet.prepare {ledger : Ledger ε} (h : ledger.Quiet) {release : Release ε}
    (hrelease : release.bursts = none) : (ledger.prepare handle release).Quiet := by
  intro id found hfound
  rw [releaseOf?_prepare] at hfound
  split at hfound
  · rw [← Option.some.inj hfound]
    exact hrelease
  · exact h id found hfound

end Additions

/-! ## Tokens that die -/

section Kill

variable (token : TokenId)

@[simp] theorem actions_kill : (ledger.kill token).actions = ledger.actions := rfl

@[simp] theorem entered_kill : (ledger.kill token).entered = ledger.entered := rfl

@[simp] theorem length_tokens_kill : (ledger.kill token).tokens.length = ledger.tokens.length :=
  List.length_set

/-- **The token of an owner that goes is not alive any more**, and the others are as they were. -/
theorem isAlive_kill (other : TokenId) :
    (ledger.kill token).isAlive other = if other = token then false else ledger.isAlive other := by
  unfold isAlive kill
  by_cases h : other = token
  · subst h
    rw [if_pos rfl, List.getElem?_set_self']
    cases ledger.tokens[other]? with
    | none => rfl
    | some alive => rfl
  · rw [if_neg h, List.getElem?_set_ne (Ne.symm h)]

end Kill

/-! ## References -/

section References

variable (id other : ActionId)

@[simp] theorem tokens_hold : (ledger.hold id).tokens = ledger.tokens := rfl

@[simp] theorem entered_hold : (ledger.hold id).entered = ledger.entered := rfl

@[simp] theorem length_actions_hold : (ledger.hold id).actions.length = ledger.actions.length :=
  List.length_modify ..

/-- References come and go without anything else. -/
theorem map_hold {α : Type} (view : Action ε → α)
    (hview : ∀ action references, view { action with references } = view action) :
    (ledger.hold id).actions[other]?.map view = ledger.actions[other]?.map view := by
  unfold hold
  rw [List.getElem?_modify]
  split
  · cases ledger.actions[other]? with
    | none => rfl
    | some action => exact congrArg some (hview action _)
  · cases ledger.actions[other]? with
    | none => rfl
    | some action => rfl

@[simp] theorem isCompleted_hold : (ledger.hold id).isCompleted other = ledger.isCompleted other :=
  congrArg (·.getD false) (ledger.map_hold id other (·.completed) fun _ _ => rfl)

@[simp] theorem releaseOf?_hold : (ledger.hold id).releaseOf? other = ledger.releaseOf? other :=
  ledger.map_hold id other (·.release) fun _ _ => rfl

@[simp] theorem handleOf?_hold : (ledger.hold id).handleOf? other = ledger.handleOf? other :=
  ledger.map_hold id other (·.handle) fun _ _ => rfl

@[simp] theorem effectOf?_hold : (ledger.hold id).effectOf? other = ledger.effectOf? other := by
  rw [effectOf?, releaseOf?_hold, effectOf?]

@[simp] theorem tokens_letGo : (ledger.letGo id).2.tokens = ledger.tokens := by
  unfold letGo
  split
  · rfl
  · rfl

@[simp] theorem entered_letGo : (ledger.letGo id).2.entered = ledger.entered := by
  unfold letGo
  split
  · rfl
  · rfl

@[simp] theorem length_actions_letGo :
    (ledger.letGo id).2.actions.length = ledger.actions.length := by
  unfold letGo
  split
  · rfl
  · exact List.length_set

/-- What is the same of an element and of the one put in its place does not show the change. -/
theorem map_getElem?_set {α β : Type} (view : α → β) {l : List α} {id : Nat} {a b : α}
    (hget : l[id]? = some a) (hview : view b = view a) (other : Nat) :
    (l.set id b)[other]?.map view = l[other]?.map view := by
  by_cases h : other = id
  · subst h
    rw [List.getElem?_set_self', hget]
    exact congrArg some hview
  · rw [List.getElem?_set_ne (Ne.symm h)]

/-- What does not show who refers to an action does not show that a reference is given up. -/
theorem map_letGo {α : Type} (view : Action ε → α)
    (hview : ∀ action references, view { action with references } = view action) :
    (ledger.letGo id).2.actions[other]?.map view = ledger.actions[other]?.map view := by
  unfold letGo
  split
  · rfl
  · rename_i action hget
    exact map_getElem?_set view hget (hview action _) other

@[simp] theorem isCompleted_letGo :
    (ledger.letGo id).2.isCompleted other = ledger.isCompleted other :=
  congrArg (·.getD false) (ledger.map_letGo id other (·.completed) fun _ _ => rfl)

@[simp] theorem releaseOf?_letGo :
    (ledger.letGo id).2.releaseOf? other = ledger.releaseOf? other :=
  ledger.map_letGo id other (·.release) fun _ _ => rfl

@[simp] theorem effectOf?_letGo :
    (ledger.letGo id).2.effectOf? other = ledger.effectOf? other := by
  rw [effectOf?, releaseOf?_letGo, effectOf?]

@[simp] theorem handleOf?_letGo :
    (ledger.letGo id).2.handleOf? other = ledger.handleOf? other :=
  ledger.map_letGo id other (·.handle) fun _ _ => rfl

theorem Quiet.letGo {ledger : Ledger ε} (h : ledger.Quiet) : (ledger.letGo id).2.Quiet :=
  fun other release hr => h other release (by rwa [releaseOf?_letGo] at hr)

/-- In a quiet ledger nothing comes of the destruction of a release function. -/
theorem Quiet.letGo_fst {ledger : Ledger ε} (h : ledger.Quiet) : (ledger.letGo id).1 = none := by
  unfold Ledger.letGo
  split
  · rfl
  · rename_i action hget
    have hquiet : action.release.bursts = none := h id _ (by rw [releaseOf?, hget]; rfl)
    simp [hquiet]

end References

/-! ## Entering a release function -/

section Run

variable (live : List Address) (id other : ActionId)

@[simp] theorem tokens_run : (ledger.run live id).2.tokens = ledger.tokens := by
  unfold run
  split
  · rfl
  · split
    · rfl
    · rfl

@[simp] theorem length_actions_run :
    (ledger.run live id).2.actions.length = ledger.actions.length := by
  unfold run
  split
  · rfl
  · split
    · rfl
    · exact List.length_set

/-- What does not show that an action is completed does not show that it runs. -/
theorem map_run {α : Type} (view : Action ε → α)
    (hview : ∀ action completed, view { action with completed } = view action) :
    (ledger.run live id).2.actions[other]?.map view = ledger.actions[other]?.map view := by
  unfold run
  split
  · rfl
  · rename_i action hget
    split
    · rfl
    · exact map_getElem?_set view hget (hview action _) other

@[simp] theorem releaseOf?_run :
    (ledger.run live id).2.releaseOf? other = ledger.releaseOf? other :=
  ledger.map_run live id other (·.release) fun _ _ => rfl

@[simp] theorem effectOf?_run :
    (ledger.run live id).2.effectOf? other = ledger.effectOf? other := by
  rw [effectOf?, releaseOf?_run, effectOf?]

@[simp] theorem handleOf?_run : (ledger.run live id).2.handleOf? other = ledger.handleOf? other :=
  ledger.map_run live id other (·.handle) fun _ _ => rfl

theorem Quiet.run {ledger : Ledger ε} (h : ledger.Quiet) : (ledger.run live id).2.Quiet :=
  fun other release hr => h other release (by rwa [releaseOf?_run] at hr)

/-- Afterwards the action is done, if there is one of that number. -/
theorem isCompleted_run : (ledger.run live id).2.isCompleted other
    = if other = id then decide (id < ledger.actions.length) else ledger.isCompleted other := by
  unfold run
  cases hget : ledger.actions[id]? with
  | none =>
    have hle : ledger.actions.length ≤ id := List.getElem?_eq_none_iff.mp hget
    by_cases h : other = id
    · simp [h, isCompleted, hle]
    · simp [h]
  | some action =>
    obtain ⟨hlt, -⟩ := List.getElem?_eq_some_iff.mp hget
    cases hdone : action.completed with
    | true =>
      -- Nothing is entered a second time.
      by_cases h : other = id
      · have hcomp : ledger.isCompleted id = true := by rw [isCompleted, hget, ← hdone]; rfl
        simp [h, hdone, hcomp, hlt]
      · simp [h, hdone]
    | false =>
      by_cases h : other = id
      · rw [h]
        simp [isCompleted, hdone, hlt]
      · simp [isCompleted, h, hdone, List.getElem?_set_ne (Ne.symm h)]

/-- The release function is entered unless the action is done. -/
theorem entered_run : (ledger.run live id).2.entered = ledger.entered ++
    match ledger.actions[id]? with
    | some action => if action.completed then []
        else [⟨id, action.handle, action.release.effect, live⟩]
    | none => [] := by
  unfold run
  cases ledger.actions[id]? with
  | none => simp
  | some action => cases h : action.completed <;> simp [h]

/-- Whatever is entered for an action, it is entered with the handle of that action. -/
theorem exists_entered_run {handle : Handle} (hhandle : ledger.handleOf? id = some handle) :
    ∃ entered, (ledger.run live id).2.entered = ledger.entered ++ entered
      ∧ ∀ other ∈ entered, other.handle = handle := by
  refine ⟨_, ledger.entered_run live id, ?_⟩
  unfold handleOf? at hhandle
  cases hget : ledger.actions[id]? with
  | none => simp [hget] at hhandle
  | some action =>
    obtain rfl : action.handle = handle := by simpa [hget] using hhandle
    cases hdone : action.completed with
    | true => simp [hdone]
    | false => simp [hdone]

/-- The release function of an action that is not done is entered, with the handle of that
action. -/
theorem entered_run_of_open (hlt : id < ledger.actions.length)
    (hopen : ledger.isCompleted id = false) :
    ∃ entered, (ledger.run live id).2.entered = ledger.entered ++ [entered]
      ∧ ledger.handleOf? id = some entered.handle ∧ ledger.effectOf? id = some entered.effect := by
  rw [entered_run, handleOf?, effectOf?, releaseOf?]
  rw [isCompleted] at hopen
  cases hget : ledger.actions[id]? with
  | none => exact absurd hlt (Nat.not_lt.mpr (List.getElem?_eq_none_iff.mp hget))
  | some action =>
    rw [hget] at hopen
    have hdone : action.completed = false := hopen
    exact ⟨⟨id, action.handle, action.release.effect, live⟩, by simp [hdone], rfl, rfl⟩

/-- **The release function of an action that is not done is entered**, and returns unless it
panics. -/
theorem run_of_open {handle : Handle} {release : Release ε} (hopen : ledger.isCompleted id = false)
    (hrelease : ledger.releaseOf? id = some release) (hhandle : ledger.handleOf? id = some handle) :
    (ledger.run live id).1 = release.panics.elim .released .panicked
      ∧ (ledger.run live id).2.entered
        = ledger.entered ++ [⟨id, handle, release.effect, live⟩] := by
  unfold isCompleted releaseOf? handleOf? at *
  unfold run
  cases hget : ledger.actions[id]? with
  | none => simp [hget] at hhandle
  | some action =>
    obtain rfl : action.release = release := by simpa [hget] using hrelease
    obtain rfl : action.handle = handle := by simpa [hget] using hhandle
    have hdone : action.completed = false := by simpa [hget] using hopen
    cases hpanics : action.release.panics with
    | none => simp [hdone, hpanics]
    | some message => simp [hdone, hpanics]

/-- **An action that runs is entered once more**, if it is there and was not completed before. No
other is. -/
theorem timesEntered_run : (ledger.run live id).2.timesEntered other = ledger.timesEntered other
    + if other = id ∧ id < ledger.actions.length ∧ ledger.isCompleted id = false then 1 else 0 := by
  unfold timesEntered
  rw [entered_run, List.countP_append]
  congr 1
  cases hget : ledger.actions[id]? with
  | none =>
    have hle : ledger.actions.length ≤ id := List.getElem?_eq_none_iff.mp hget
    simp [Nat.not_lt.mpr hle]
  | some action =>
    have hlt := (List.getElem?_eq_some_iff.mp hget).1
    have hcomp : ledger.isCompleted id = action.completed := by rw [isCompleted, hget]; rfl
    cases hdone : action.completed with
    | true => simp [hcomp, hdone]
    | false =>
      by_cases h : other = id
      · simp [h, hcomp, hdone, hlt]
      · simp [h, Ne.symm h]

/-- A tallied ledger stays tallied when a release function is entered. -/
theorem Tallied.run {ledger : Ledger ε} (h : ledger.Tallied) : (ledger.run live id).2.Tallied := by
  intro other
  rw [timesEntered_run, isCompleted_run, h other]
  by_cases hid : other = id
  · subst hid
    by_cases hlt : other < ledger.actions.length
    · cases hdone : ledger.isCompleted other <;> simp [hlt]
    · simp [hlt, ledger.isCompleted_of_le (Nat.le_of_not_lt hlt)]
  · simp [hid]

end Run

end Custody.Ledger
