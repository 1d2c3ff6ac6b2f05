import LexMind.Events.EventBus
import LexMind.Lib.Run

set_option autoImplicit false

/- A service with an event bus against the same service without one. -/
namespace LexMind.Events

open Lib

/-- Not the failure of an attribute that is looked up. -/
def Ordinary : PyExc → Prop
  | .attributeError .. => False
  | _ => True

section Programs

variable {σ α β : Type}

/-- Whether there is a bus makes no difference, and the bus is left as it is. -/
def BusFree (program : Py (Wired σ) α) (state : σ) : Prop :=
  ∃ answer after, ∀ bus, call program ⟨state, bus⟩ = (answer, ⟨after, bus⟩)

/-- With any bus, the program raises what the lookup of a name on an event raises. -/
def Announces (program : Py (Wired σ) α) (state : σ) : Prop :=
  ∀ bus, ∃ className attrName,
    (call program ⟨state, some bus⟩).1 = .error (.attributeError className attrName)

/-- A check that fails, not by a lookup of an attribute. -/
def Mild {α : Type} (result : Except PyExc α) : Prop :=
  ∀ reason, result = .error reason → Ordinary reason

theorem Mild.ok {α : Type} (value : α) : Mild (.ok value) := by
  intro reason failed
  cases failed

theorem Mild.error {α : Type} {reason : PyExc} (ordinary : Ordinary reason) :
    Mild (.error reason : Except PyExc α) := by
  intro other failed
  cases failed
  exact ordinary

theorem Mild.bind {α β : Type} {first : Except PyExc α} {next : α → Except PyExc β}
    (mild : Mild first) (later : ∀ value, Mild (next value)) : Mild (first >>= next) := by
  cases first with
  | error reason => exact .error (mild reason rfl)
  | ok value => exact later value

theorem Mild.map {α β : Type} {result : Except PyExc α} (mild : Mild result) (change : α → β) :
    Mild (result.map change) := by
  cases result with
  | error reason => exact .error (mild reason rfl)
  | ok value => exact .ok _

/-- No lookup of an attribute fails. -/
abbrev Tame (program : Py σ α) : Prop := RaisesOnly (fun _ => True) Ordinary program

/-- Without a bus, no lookup of an attribute fails. -/
abbrev Plain (program : Py (Wired σ) α) : Prop :=
  RaisesOnly (fun wired : Wired σ => wired.bus = none) Ordinary program

variable {program : Py (Wired σ) α} {state after : σ}

theorem BusFree.raised (reason : PyExc)
    (raises : ∀ bus, call program ⟨state, bus⟩ = (.error reason, ⟨state, bus⟩)) :
    BusFree program state := ⟨.error reason, state, raises⟩

theorem BusFree.returned (value : α) : BusFree (pure value : Py (Wired σ) α) state :=
  ⟨.ok value, state, fun _ => rfl⟩

theorem BusFree.onService (program : Py σ α) : BusFree (Events.onService program) state :=
  ⟨(call program state).1, (call program state).2, fun bus => call_onService program state bus⟩

/-- What follows is asked about where the program leads to without a bus. -/
theorem BusFree.bind {next : α → Py (Wired σ) β} (first : BusFree program state)
    (later : ∀ value after, call program ⟨state, none⟩ = (.ok value, ⟨after, none⟩) →
      BusFree (next value) after) : BusFree (program >>= next) state := by
  obtain ⟨answer, after, same⟩ := first
  cases answer with
  | error exc => exact ⟨.error exc, after, fun bus => by rw [call_bind, same bus, andThen_error]⟩
  | ok value =>
      obtain ⟨last, final, ends⟩ := later value after (same none)
      exact ⟨last, final, fun bus => by rw [call_bind, same bus, andThen_ok, ends bus]⟩

theorem BusFree.map (change : α → β) (free : BusFree program state) :
    BusFree (change <$> program) state := by
  obtain ⟨answer, after, same⟩ := free
  exact ⟨answer.map change, after, fun bus => by rw [call_map, same]⟩

theorem Announces.emit {event : EventObject} (unnamed : event.attributes.lookup "name" = none) :
    Announces (Events.emit event) state := by
  intro bus
  exact ⟨event.className, "name", by rw [emit_unnamed event unnamed]⟩

theorem Announces.bind {next : α → Py (Wired σ) β} (first : Announces program state) :
    Announces (program >>= next) state := by
  intro bus
  obtain ⟨className, attrName, raised⟩ := first bus
  refine ⟨className, attrName, ?_⟩
  rw [call_bind]
  rcases ended : call program ⟨state, some bus⟩ with ⟨answer, last⟩
  rw [ended] at raised
  cases raised
  rfl

/-- A program that returns leads to what announces. -/
theorem Announces.later {next : α → Py (Wired σ) β} (value : α)
    (returns : ∀ bus, call program ⟨state, bus⟩ = (.ok value, ⟨after, bus⟩))
    (announces : Announces (next value) after) : Announces (program >>= next) state := by
  intro bus
  obtain ⟨className, attrName, raised⟩ := announces bus
  exact ⟨className, attrName, by rw [call_bind, returns, andThen_ok, raised]⟩

theorem Announces.map (change : α → β) (announces : Announces program state) :
    Announces (change <$> program) state := by
  intro bus
  obtain ⟨className, attrName, raised⟩ := announces bus
  exact ⟨className, attrName, by rw [call_map, raised, map_error]⟩

theorem Plain.emit (event : EventObject) : Plain (Events.emit event : Py (Wired σ) Unit) := by
  rintro ⟨service, bus⟩ rfl
  rw [emit_without_bus]
  exact ⟨nofun, rfl⟩

theorem Tame.set (next : σ) : Tame (set next : Py σ PUnit) := by
  intro before _
  rw [call_set]
  exact ⟨nofun, trivial⟩

theorem Tame.onPart {τ : Type} {part : τ → σ} {put : τ → σ → τ} {program : Py σ α}
    (tame : Tame program) : Tame (Lib.onPart part put program) := by
  intro whole _
  rw [call_onPart]
  exact ⟨(tame (part whole) trivial).1, trivial⟩

/-- A program on a part of the service does not touch the bus. -/
theorem Plain.onPart {τ : Type} {part : Wired σ → τ} {put : Wired σ → τ → Wired σ}
    {program : Py τ α} (keeps : ∀ wired next, (put wired next).bus = wired.bus)
    (tame : Tame program) : Plain (Lib.onPart part put program) := by
  intro wired unwired
  rw [call_onPart]
  exact ⟨(tame (part wired) trivial).1, (keeps _ _).trans unwired⟩

theorem Plain.onService {program : Py σ α} (tame : Tame program) :
    Plain (Events.onService program) := Plain.onPart (fun _ _ => rfl) tame

/-- The program announces something, and without a bus no lookup of an attribute fails. -/
structure Heard (program : Py (Wired σ) α) (state : σ) : Prop where
  announces : Announces program state
  mild : Mild (call program ⟨state, none⟩).1

theorem Announces.heard (announces : Announces program state) (plain : Plain program) :
    Heard program state := ⟨announces, (plain ⟨state, none⟩ rfl).1⟩

/-- A program that returns leads to what is heard. -/
theorem Heard.later {next : α → Py (Wired σ) β} (value : α)
    (returns : ∀ bus, call program ⟨state, bus⟩ = (.ok value, ⟨after, bus⟩))
    (heard : Heard (next value) after) : Heard (program >>= next) state := by
  refine ⟨.later value returns heard.announces, ?_⟩
  rw [call_bind, returns, andThen_ok]
  exact heard.mild

/-- What is read of the service does not depend on the bus. -/
theorem Heard.get_bind {next : Wired σ → Py (Wired σ) β} {rest : Py (Wired σ) β}
    (reads : ∀ bus, next ⟨state, bus⟩ = rest) (heard : Heard rest state) :
    Heard (get >>= next) state := by
  have leads (bus : Option EventBus) :
      call (get >>= next) ⟨state, bus⟩ = call rest ⟨state, bus⟩ := by
    rw [call_bind, call_get, andThen_ok, reads]
  refine ⟨fun bus => ?_, ?_⟩
  · rw [leads]
    exact heard.announces bus
  · rw [leads]
    exact heard.mild

theorem Heard.emit_bind {event : EventObject} {next : Unit → Py (Wired σ) β}
    (unnamed : event.attributes.lookup "name" = none)
    (mild : Mild (call (next ()) ⟨state, none⟩).1) : Heard (Events.emit event >>= next) state := by
  refine ⟨.bind (.emit unnamed), ?_⟩
  rw [call_bind, emit_without_bus, andThen_ok]
  exact mild

theorem Heard.emit {event : EventObject} (unnamed : event.attributes.lookup "name" = none) :
    Heard (Events.emit event) state := by
  refine ⟨.emit unnamed, ?_⟩
  rw [emit_without_bus]
  exact .ok ()

theorem Heard.map (heard : Heard program state) (change : α → β) :
    Heard (change <$> program) state := by
  refine ⟨heard.announces.map change, ?_⟩
  rw [call_map]
  exact heard.mild.map change

/-- What is heard answers with a bus what it does not answer without one. -/
theorem Heard.differs (heard : Heard program state) (bus : EventBus) :
    (call program ⟨state, some bus⟩).1 ≠ (call program ⟨state, none⟩).1 := by
  obtain ⟨className, attrName, raised⟩ := heard.announces bus
  intro same
  exact heard.mild _ (same.symm.trans raised)

end Programs

section Uses

variable {σ ω ρ β : Type}

/-- What a caller does with a service: a call, or a question about its state. -/
inductive Use (σ ω β : Type)
  | call (made : ω)
  | ask (question : σ → Except PyExc β)

def Use.program (program : ω → Py (Wired σ) ρ) : Use σ ω β → Py (Wired σ) (ρ ⊕ β)
  | .call made => Sum.inl <$> program made
  | .ask question => do
      let wired ← get
      Sum.inr <$> check (question wired.service)

def useStep (program : ω → Py (Wired σ) ρ) (wired : Wired σ) (use : Use σ ω β) :
    Except PyExc (ρ ⊕ β) × Wired σ :=
  Lib.call (use.program program) wired

/-- The uses answer with the bus what they answer without one, and leave the same service. -/
def Transparent (program : ω → Py (Wired σ) ρ) (bus : EventBus) (state : σ)
    (uses : List (Use σ ω β)) : Prop :=
  let wired := run (useStep program) ⟨state, some bus⟩ uses
  let plain := run (useStep program) ⟨state, none⟩ uses
  wired.1 = plain.1 ∧ wired.2.service = plain.2.service

/-- In a run without a bus, every call meets the condition where it is made. -/
def QuietRun (program : ω → Py (Wired σ) ρ) (quiet : σ → ω → Prop) (state : σ)
    (uses : List (Use σ ω β)) : Prop :=
  Along (useStep program)
    (fun wired use => ∀ made, use = .call made → quiet wired.service made) ⟨state, none⟩ uses

variable {program : ω → Py (Wired σ) ρ} {quiet : σ → ω → Prop}

theorem useStep_busFree (free : ∀ state made, quiet state made → BusFree (program made) state)
    {state : σ} {use : Use σ ω β} (fits : ∀ made, use = .call made → quiet state made) :
    BusFree (use.program program) state := by
  cases use with
  | call made => exact (free state made (fits made rfl)).map Sum.inl
  | ask question =>
      refine ⟨(question state).map Sum.inr, state, fun bus => ?_⟩
      rw [Use.program, call_bind, call_get, andThen_ok, call_map, call_check]

/-- Where a call does without its bus exactly if it is quiet, a run is transparent exactly if its
calls are quiet. -/
theorem transparent_iff (free : ∀ state made, quiet state made → BusFree (program made) state)
    (heard : ∀ state made, ¬ quiet state made → Heard (program made) state)
    (bus : EventBus) (state : σ) (uses : List (Use σ ω β)) :
    Transparent program bus state uses ↔ QuietRun program quiet state uses := by
  induction uses generalizing state with
  | nil => exact ⟨fun _ => trivial, fun _ => ⟨rfl, rfl⟩⟩
  | cons use rest ih =>
      by_cases fits : ∀ made, use = .call made → quiet state made
      · obtain ⟨answer, after, same⟩ := useStep_busFree free fits
        have step (other : Option EventBus) :
            useStep program ⟨state, other⟩ use = (answer, ⟨after, other⟩) := same other
        unfold Transparent QuietRun at ih ⊢
        rw [Along, and_iff_right fits]
        simp only [run, step, List.cons.injEq, true_and]
        exact ih after
      · push Not at fits
        obtain ⟨made, rfl, unquiet⟩ := fits
        have differs := ((heard state made unquiet).map (Sum.inl : ρ → ρ ⊕ β)).differs bus
        constructor
        · rintro ⟨answers, -⟩
          exact absurd (List.cons.inj answers).1 differs
        · rintro ⟨first, -⟩
          exact absurd (first made rfl) unquiet

end Uses

end LexMind.Events
