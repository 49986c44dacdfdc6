import EncosDriver.Port.Model

set_option autoImplicit false

namespace EncosDriver.Port

open Lib HazardCells PortState

variable {size : Nat} {Word : Type}

section Steps

variable (len : Nat) (state : PortState size Word)

inductive ProducerSteps : PortState size Word → Prop where
  | loadHazard (message : Message size Word) (pc : state.producer = .loadHazard message) :
      ProducerSteps { state with
        producer := .copyPayload message (nextCell (state.slots (state.producerIndex len)).producerActive
          (state.slots (state.producerIndex len)).readerHazard) 0 }
  | copyWord (message : Message size Word) (cell copied : Nat) (inside : copied < size)
      (pc : state.producer = .copyPayload message cell copied) :
      ProducerSteps { state.setSlot (state.producerIndex len)
          ((state.slots (state.producerIndex len)).writeWord cell ⟨copied, inside⟩ (message ⟨copied, inside⟩)) with
        producer := .copyPayload message cell (copied + 1) }
  | copied (message : Message size Word) (cell copied : Nat) (inside : ¬ copied < size)
      (pc : state.producer = .copyPayload message cell copied) :
      ProducerSteps { state with producer := .prepare message cell .odd }
  | prepare (message : Message size Word) (cell : Nat) (stage : PrepareStage) (pc : state.producer = .prepare message cell stage) :
      ProducerSteps { state.setSlot (state.producerIndex len)
          ((state.slots (state.producerIndex len)).writeMetadata cell
            (((state.slots (state.producerIndex len)).metadata cell).prepare state.nextSequence cell stage)) with
        producer := match nextStage stage with
          | some stage => .prepare message cell stage
          | none => .storeActive cell }
  | storeActive (cell : Nat) (pc : state.producer = .storeActive cell) :
      ProducerSteps { state.setSlot (state.producerIndex len)
          { state.slots (state.producerIndex len) with publishedActive := cell, producerActive := cell } with
        producer := .loadHeadHazard }
  | loadHeadHazard (pc : state.producer = .loadHeadHazard) :
      ProducerSteps { state with
        producer := .prepareHead (nextCell state.head.producerActive state.head.readerHazard) .odd }
  | prepareHead (cell : Nat) (stage : PrepareStage) (pc : state.producer = .prepareHead cell stage) :
      ProducerSteps { state with
        head := { state.head with
          metadata := Function.update state.head.metadata cell ((state.head.metadata cell).prepare state.nextSequence stage) }
        producer := match nextHeadStage stage with
          | some stage => .prepareHead cell stage
          | none => .storeHeadActive cell }
  | storeHeadActive (cell : Nat) (pc : state.producer = .storeHeadActive cell) :
      ProducerSteps { state with
        head := { state.head with publishedActive := cell, producerActive := cell }
        producerSequence := state.nextSequence
        producer := .idle }

theorem producer_steps {len : Nat} {state next : PortState size Word} (taken : producerStep len state = some next) :
    ProducerSteps len state next := by
  cases pc : state.producer with
  | idle => simp [producerStep, pc] at taken
  | copyPayload message cell copied =>
    by_cases inside : copied < size
    · simp only [producerStep, pc, inside, ↓reduceDIte, Option.some.injEq] at taken
      exact taken ▸ .copyWord message cell copied inside pc
    · simp only [producerStep, pc, inside, ↓reduceDIte, Option.some.injEq] at taken
      exact taken ▸ .copied message cell copied inside pc
  | _ =>
    simp only [producerStep, pc] at taken
    cases taken
    constructor
    exact pc

inductive PortSteps : PortAction size Word → PortState size Word → Prop where
  | push (message : Message size Word) (pc : state.producer = .idle) :
      PortSteps (.push message) { state with producer := .loadHazard message, pushes := state.pushes ++ [message] }
  | producer (next : PortState size Word) (taken : producerStep len state = some next) : PortSteps .producer next
  | call (call : ConsumerCall) (pc : state.consumer = .idle) :
      PortSteps (.call call) { state with consumer := .loadHeadActive call }
  | consumer (next : PortState size Word) (taken : consumerStep len state = some next) : PortSteps .consumer next

theorem port_steps {len : Nat} {state next : PortState size Word} {action : PortAction size Word}
    (taken : portStep len state action = some next) : PortSteps len state action next := by
  cases action with
  | push message =>
    simp only [portStep] at taken
    split at taken
    · next pc => exact Option.some.inj taken ▸ .push message pc
    · cases taken
  | producer => exact .producer next taken
  | call call =>
    simp only [portStep] at taken
    split at taken
    · next pc => exact Option.some.inj taken ▸ .call call pc
    · cases taken
  | consumer => exact .consumer next taken

end Steps

end EncosDriver.Port
