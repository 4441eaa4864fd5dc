import DeviceMatrix.Source.Basic

/-! A step source that answers from two queues of replies prepared beforehand. -/
namespace DeviceMatrix

structure Script where
  pages : List (Except ServiceError StepPage)
  rollups : List (Except ServiceError Outcome)

namespace Script

def takePage : StateM Script (Reply StepPage) := fun script =>
  match script.pages with
  | [] => (⟨.error (.backend "listed past the last page"), []⟩, script)
  | reply :: pages => (⟨reply, []⟩, { script with pages })

def takeRollup : StateM Script (Reply Outcome) := fun script =>
  match script.rollups with
  | [] => (⟨.error (.backend "no rollup scripted"), []⟩, script)
  | reply :: rollups => (⟨reply, []⟩, { script with rollups })

def source : StepSource (StateM Script) where
  name := "scripted"
  list _ _ _ := takePage
  rollup _ := takeRollup

end Script
end DeviceMatrix
