/-!
Association lists with one value per key. A new key goes to the end, a known one keeps its place.
-/

namespace LiveList.Assoc

variable {Key Value : Type} [DecidableEq Key]

def set (key : Key) (value : Value) : List (Key × Value) → List (Key × Value)
  | [] => [(key, value)]
  | entry :: rest => if entry.1 = key then (key, value) :: rest else entry :: set key value rest

def erase (key : Key) (entries : List (Key × Value)) : List (Key × Value) :=
  entries.filter fun entry => entry.1 ≠ key

def get? (entries : List (Key × Value)) (key : Key) : Option Value :=
  match entries with
  | [] => none
  | entry :: rest => if entry.1 = key then some entry.2 else get? rest key

def contains (entries : List (Key × Value)) (key : Key) : Bool :=
  (get? entries key).isSome

theorem get?_set (key other : Key) (value : Value) (entries : List (Key × Value)) :
    get? (set key value entries) other =
      if other = key then some value else get? entries other := by
  induction entries with
  | nil =>
      by_cases same : other = key
      · simp [set, get?, same]
      · simp [set, get?, same, Ne.symm same]
  | cons entry rest ih =>
      simp only [set]
      by_cases here : entry.1 = key
      · by_cases same : other = key
        · simp [here, get?, same]
        · simp [here, get?, same, Ne.symm same]
      · by_cases there : entry.1 = other
        · have different : other ≠ key := fun same => here (there.trans same)
          simp [get?, there, different]
        · simp [here, get?, there, ih]

theorem get?_erase (key other : Key) (entries : List (Key × Value)) :
    get? (erase key entries) other = if other = key then none else get? entries other := by
  induction entries with
  | nil => simp [erase, get?]
  | cons entry rest ih =>
      by_cases here : entry.1 = key
      · have step : erase key (entry :: rest) = erase key rest := by simp [erase, here]
        rw [step, ih]
        by_cases same : other = key
        · simp [same]
        · have different : entry.1 ≠ other := fun there => same (there.symm.trans here)
          simp [same, get?, different]
      · have step : erase key (entry :: rest) = entry :: erase key rest := by simp [erase, here]
        rw [step]
        by_cases there : entry.1 = other
        · have different : other ≠ key := fun same => here (there.trans same)
          simp [get?, there, different]
        · simp [get?, there, ih]

end LiveList.Assoc
