import LiveList.Request.Route

/-!
Shapes of paths. A path that has a shape can be read by it, in one way, and what stands in the
places is passed on. Two shapes have a path in common exactly if no segment tells them apart, which
can be seen without looking at any path.
-/

namespace LiveList.Segment

def IsDigits (text : String) : Prop := text ≠ "" ∧ ∀ c ∈ text.toList, '0' ≤ c ∧ c ≤ '9'

/-- What may stand in a place. A fixed word is no place. -/
inductive Holds : Segment → String → Prop where
  | token {text : String} (digits : IsDigits text) : Holds token text
  | number {text : String} (digits : IsDigits text) : Holds number text
  | name {text : String} (some : text ≠ "") : Holds name text

/-- A path read by a shape: its fixed words are there, and what stands in its places is passed on,
in order and as it is written. -/
inductive Reads : List Segment → List String → List String → Prop where
  | done : Reads [] [] []
  | word {shape : List Segment} {path values : List String} (word : String)
      (rest : Reads shape path values) : Reads (exact word :: shape) (word :: path) values
  | place {segment : Segment} {text : String} {shape : List Segment} {path values : List String}
      (holds : segment.Holds text) (rest : Reads shape path values) :
      Reads (segment :: shape) (text :: path) (text :: values)

variable {segment first second : Segment} {shape others : List Segment} {text : String}
  {path values : List String}

theorem digits_iff :
    (!text.isEmpty && text.toList.all Char.isDigit) = true ↔ IsDigits text := by
  simp [IsDigits, Char.isDigit, Char.le_def]

theorem holds_iff :
    segment.Holds text ↔ segment.isFixed = false ∧ segment.accepts text = true := by
  constructor
  · intro holds
    cases holds with
    | token digits | number digits => exact ⟨rfl, digits_iff.mpr digits⟩
    | name some => exact ⟨rfl, by simpa [accepts] using some⟩
  · rintro ⟨place, accepted⟩
    cases segment with
    | exact => cases place
    | token => exact .token (digits_iff.mp accepted)
    | number => exact .number (digits_iff.mp accepted)
    | name => exact .name (by simpa [accepts] using accepted)

theorem acceptAll_nil : acceptAll [] path = true ↔ path = [] := by
  cases path <;> simp [acceptAll]

theorem acceptAll_cons :
    acceptAll (segment :: shape) path = true ↔
      ∃ text rest, path = text :: rest ∧ segment.accepts text = true ∧
        acceptAll shape rest = true := by
  cases path with
  | nil => simp [acceptAll]
  | cons text rest =>
      rw [acceptAll, Bool.and_eq_true]
      constructor
      · intro accepted
        exact ⟨text, rest, rfl, accepted⟩
      · rintro ⟨_, _, ⟨⟩, accepted⟩
        exact accepted

theorem capture_cons (segment : Segment) (shape : List Segment) (text : String)
    (path : List String) :
    capture (segment :: shape) (text :: path) =
      if segment.isFixed then capture shape path else text :: capture shape path := by
  cases fixed : segment.isFixed <;> simp [capture, fixed]

theorem reads_iff :
    Reads shape path values ↔ acceptAll shape path = true ∧ capture shape path = values := by
  constructor
  · intro reads
    induction reads with
    | done => exact ⟨rfl, rfl⟩
    | word word rest ih =>
        exact ⟨acceptAll_cons.mpr ⟨_, _, rfl, beq_self_eq_true word, ih.1⟩,
          (capture_cons ..).trans ih.2⟩
    | place holds rest ih =>
        obtain ⟨place, accepted⟩ := holds_iff.mp holds
        exact ⟨acceptAll_cons.mpr ⟨_, _, rfl, accepted, ih.1⟩, by simp [capture_cons, place, ih.2]⟩
  · rintro ⟨accepted, rfl⟩
    induction shape generalizing path with
    | nil =>
        obtain rfl := acceptAll_nil.mp accepted
        exact .done
    | cons segment shape ih =>
        obtain ⟨text, rest, rfl, here, along⟩ := acceptAll_cons.mp accepted
        rw [capture_cons]
        cases segment with
        | exact word =>
            obtain rfl : word = text := eq_of_beq here
            exact .word word (ih along)
        | token | number | name => exact .place (holds_iff.mpr ⟨rfl, here⟩) (ih along)

/-! Shapes with a path in common -/

def meets : Segment → Segment → Bool
  | exact word, segment | segment, exact word => segment.accepts word
  | _, _ => true

def meetAll : List Segment → List Segment → Bool
  | [], [] => true
  | first :: shape, second :: others => first.meets second && meetAll shape others
  | _, _ => false

theorem meets_iff :
    first.meets second = true ↔ ∃ text, first.accepts text = true ∧ second.accepts text = true := by
  -- Any two places have the digit in common, which is also a name.
  have digit (segment : Segment) (place : segment.isFixed = false) :
      segment.accepts "0" = true := by
    cases segment with
    | exact => cases place
    | token | number | name => decide
  cases first with
  | exact word =>
      constructor
      · intro meet
        exact ⟨word, by simp [accepts], by simpa [meets] using meet⟩
      · rintro ⟨text, here, there⟩
        obtain rfl : word = text := eq_of_beq here
        simpa [meets] using there
  | token | number | name =>
      cases second with
      | exact word =>
          constructor
          · intro meet
            exact ⟨word, meet, by simp [accepts]⟩
          · rintro ⟨text, here, there⟩
            obtain rfl : word = text := eq_of_beq there
            exact here
      | token | number | name => exact ⟨fun _ => ⟨"0", digit _ rfl, digit _ rfl⟩, fun _ => rfl⟩

theorem meetAll_iff :
    meetAll shape others = true ↔
      ∃ path, acceptAll shape path = true ∧ acceptAll others path = true := by
  induction shape generalizing others with
  | nil => cases others <;> simp [meetAll, acceptAll_nil, acceptAll_cons]
  | cons first shape ih =>
      cases others with
      | nil => simp [meetAll, acceptAll_nil, acceptAll_cons]
      | cons second others =>
          rw [meetAll, Bool.and_eq_true, meets_iff, ih]
          constructor
          · rintro ⟨⟨text, here, there⟩, path, along, across⟩
            exact ⟨text :: path, acceptAll_cons.mpr ⟨text, path, rfl, here, along⟩,
              acceptAll_cons.mpr ⟨text, path, rfl, there, across⟩⟩
          · rintro ⟨path, one, other⟩
            obtain ⟨text, path, rfl, here, along⟩ := acceptAll_cons.mp one
            obtain ⟨there, across⟩ := (Bool.and_eq_true _ _).mp other
            exact ⟨⟨text, here, there⟩, path, along, across⟩

end LiveList.Segment
