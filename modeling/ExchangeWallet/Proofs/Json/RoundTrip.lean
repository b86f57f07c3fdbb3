import ExchangeWallet.Proofs.Json.Spelling
/-!
# Values read back

A value is exact at a depth if it nests no deeper, has no floating-point number, and
lists the fields of its objects in ascending order of their keys. The text of an
exact value is read back to it, and to nothing else, so that exact values with the
same text are the same.

The order matters for the value alone. An object whose fields are written in another
order, or with one key twice, reads back to the ordered object in which the later
field of a key counts; the fields as they are written can be told from the text too.
-/
namespace ExchangeWallet.Json

/-- The text of a value is read back to it, whatever stands behind. -/
def ReadsBack (depth : Nat) (value : Value) : Prop :=
  ∀ rest, Boundary rest → Yields (readValue depth (value.text ++ rest)) value rest

/-- The word for no value reads back. -/
theorem null_readsBack (depth : Nat) : ReadsBack depth .null := by
  intro rest _
  have read : Yields (readScalar 'n' ("ull".toList ++ rest)) .null rest := by
    unfold readScalar
    simp only [if_true]
    exact (readWord_self "ull".toList rest).map _ _ (fun _ => rfl) (fun _ => rfl)
  exact readValue_scalar rfl (by decide) (by decide) read

/-- The words for truth and falsehood read back. -/
theorem bool_readsBack (depth : Nat) (value : Bool) : ReadsBack depth (.bool value) := by
  intro rest _
  cases value with
  | false =>
    have read : Yields (readScalar 'f' ("alse".toList ++ rest)) (.bool false) rest := by
      unfold readScalar
      simp only [Char.reduceEq, if_false, if_true]
      exact (readWord_self "alse".toList rest).map _ _ (fun _ => rfl) (fun _ => rfl)
    exact readValue_scalar rfl (by decide) (by decide) read
  | true =>
    have read : Yields (readScalar 't' ("rue".toList ++ rest)) (.bool true) rest := by
      unfold readScalar
      simp only [Char.reduceEq, if_false, if_true]
      exact (readWord_self "rue".toList rest).map _ _ (fun _ => rfl) (fun _ => rfl)
    exact readValue_scalar rfl (by decide) (by decide) read

/-- Every string reads back. -/
theorem string_readsBack (depth : Nat) (text : String) : ReadsBack depth (.string text) := by
  intro rest _
  have written : (Value.string text).text ++ rest =
      '"' :: (text.toList.flatMap escape ++ '"' :: rest) := by
    simp [Value.text, quote]
  have read : Yields (readScalar '"' (text.toList.flatMap escape ++ '"' :: rest))
      (.string text) rest := by
    unfold readScalar
    simp only [Char.reduceEq, if_false, if_true]
    exact (readString_flatMap_escape text.toList rest).map _ _ (fun _ => rfl)
      (fun _ => by simp [Parsed.widen, Parsed.as])
  rw [written]
  exact readValue_scalar rfl (by decide) (by decide) read

/-- A number without a sign reads back. -/
theorem natural_readsBack (depth number : Nat)
    (inRange : -(2 ^ 63) ≤ (number : Int) ∧ (number : Int) < 2 ^ 64) :
    ReadsBack depth (.number (.whole number inRange)) := by
  intro rest boundary
  have read : Yields (readNumber false (Numeral.naturalText number ++ rest))
      (.whole number inRange) rest :=
    readNumber_naturalText false number rest boundary (by omega) (whole_of_natural number inRange)
  obtain ⟨character, others, written, digit⟩ := Numeral.naturalText_opening number
  change Yields (readValue depth (Numeral.naturalText number ++ rest)) _ rest
  rw [written] at read ⊢
  exact readValue_digit digit read

/-- A negative number reads back. -/
theorem negative_readsBack (depth number : Nat)
    (inRange : -(2 ^ 63) ≤ Int.negSucc number ∧ Int.negSucc number < 2 ^ 64) :
    ReadsBack depth (.number (.whole (.negSucc number) inRange)) := by
  intro rest boundary
  have read : Yields (readNumber true (Numeral.naturalText (number + 1) ++ rest))
      (.whole (.negSucc number) inRange) rest :=
    readNumber_naturalText true (number + 1) rest boundary (by omega)
      (whole_of_negative number inRange)
  exact readValue_minus read

/-- Every whole number reads back, up to both ends of the range. -/
theorem whole_readsBack (depth : Nat) (value : Int)
    (inRange : -(2 ^ 63) ≤ value ∧ value < 2 ^ 64) :
    ReadsBack depth (.number (.whole value inRange)) := by
  cases value with
  | ofNat number => exact natural_readsBack depth number inRange
  | negSucc number => exact negative_readsBack depth number inRange

/-- The text of an array is made from the texts of its items. -/
theorem text_array (items : List Value) :
    (Value.array items).text = arrayText (items.map Value.text) := by
  have behind (others : List Value) : itemsText others = moreTexts (others.map Value.text) := by
    induction others with
    | nil => rfl
    | cons item others inductionHypothesis =>
      rw [itemsText, List.map_cons, moreTexts, inductionHypothesis]
  cases items with
  | nil => rfl
  | cons item others => rw [Value.text, List.map_cons, arrayText, behind]

/-- An array reads back one level above its items. -/
theorem array_readsBack {depth : Nat} (items : List Value)
    (reads : ∀ item ∈ items, ReadsBack depth item) : ReadsBack (depth + 1) (.array items) := by
  let spelled : List (Spelling depth) := items.pmap (fun item reads => ⟨item.text, item, reads⟩) reads
  have texts : spelled.map Spelling.text = items.map Value.text := by
    rw [List.map_pmap, List.pmap_eq_map]
  have values : spelled.map Spelling.value = items := by
    rw [List.map_pmap, List.pmap_eq_map, List.map_id']
  have spells := (Spelling.array spelled).spells
  change Spells (depth + 1) (arrayText (spelled.map Spelling.text))
    (.array (spelled.map Spelling.value)) at spells
  rw [texts, values, ← text_array] at spells
  exact spells

/-- What follows a field of an object is a boundary. -/
theorem fieldsText_boundary (fields : List (String × Value)) (rest : List Char) :
    Boundary (fieldsText fields ++ rest) := by
  cases fields <;> simp [Boundary, fieldsText]

/-- A field reads back, its key from the quotes and its value behind the colon. -/
theorem readField_text {depth : Nat} (key : String) (value : Value) (rest : List Char)
    (reads : ReadsBack depth value) (boundary : Boundary rest) :
    Yields (readField (readValue depth) (quote key ++ ':' :: value.text ++ rest))
      (key, value) rest := by
  have written : quote key ++ ':' :: value.text ++ rest =
      '"' :: (key.toList.flatMap escape ++ '"' :: (':' :: (value.text ++ rest))) := by
    simp [quote]
  have start := skipBlanks_cons (key.toList.flatMap escape ++ '"' :: (':' :: (value.text ++ rest)))
    (show isBlank '"' = false from rfl)
  have colon := skipBlanks_cons (value.text ++ rest) (show isBlank ':' = false from rfl)
  rw [written]
  unfold readField
  split
  · next body opened =>
    obtain ⟨_, rfl⟩ := List.cons.inj (start.symm.trans opened)
    refine (readString_flatMap_escape key.toList (':' :: (value.text ++ rest))).bind _ ?_
    intro shorter
    split
    · next none => cases colon.symm.trans none
    · next others found =>
      obtain ⟨_, rfl⟩ := List.cons.inj (colon.symm.trans found)
      refine (reads rest boundary).bind _ ?_
      intro below
      exact Yields.returned _ (by simp [Parsed.widen, Parsed.as])
    · next other _ notColon => exact absurd colon (notColon _)
  · next notQuote => exact absurd start (notQuote _)

/-- The fields behind the first one read back in their order, up to the end of their
object. No key is compared with another here. -/
theorem readMoreFields_fieldsText {depth : Nat} (fields : List (String × Value)) (rest : List Char)
    (reads : ∀ field ∈ fields, ReadsBack depth field.2) :
    Yields (readMoreFields (readValue depth) (fieldsText fields ++ rest)) fields rest := by
  induction fields with
  | nil =>
    have closing := skipBlanks_cons rest (show isBlank '}' = false from rfl)
    change Yields (readMoreFields (readValue depth) ('}' :: rest)) [] rest
    rw [readMoreFields]
    split
    · next none => cases closing.symm.trans none
    · next first others found =>
      obtain ⟨rfl, rfl⟩ := List.cons.inj (closing.symm.trans found)
      rw [if_pos rfl]
      exact ⟨_, rfl⟩
  | cons field others inductionHypothesis =>
    obtain ⟨key, value⟩ := field
    have behind := inductionHypothesis (fun other member => reads other (by simp [member]))
    have first := readField_text key value (fieldsText others ++ rest) (reads (key, value) (by simp))
      (fieldsText_boundary others rest)
    have written : fieldsText ((key, value) :: others) ++ rest =
        ',' :: (quote key ++ ':' :: value.text ++ (fieldsText others ++ rest)) := by
      simp [fieldsText]
    have comma := skipBlanks_cons (quote key ++ ':' :: value.text ++ (fieldsText others ++ rest))
      (show isBlank ',' = false from rfl)
    have opening : skipBlanks (quote key ++ ':' :: value.text ++ (fieldsText others ++ rest)) =
        quote key ++ ':' :: value.text ++ (fieldsText others ++ rest) :=
      skipBlanks_cons _ rfl
    rw [written, readMoreFields]
    split
    · next none => cases comma.symm.trans none
    · next character tail found =>
      obtain ⟨rfl, rfl⟩ := List.cons.inj (comma.symm.trans found)
      rw [if_neg (by decide), if_pos rfl]
      split
      · next none => cases opening.symm.trans none
      · next closed => cases opening.symm.trans closed
      · refine first.bind _ ?_
        intro shorter
        refine behind.bind _ ?_
        intro below
        exact Yields.returned _ rfl

/-- The fields of an object read back in their order behind its opening brace. -/
theorem readFields_text {depth : Nat} (fields : List (String × Value)) (rest : List Char)
    (reads : ∀ field ∈ fields, ReadsBack depth field.2) :
    ∃ text, (Value.object fields).text ++ rest = '{' :: text ∧
      Yields (readFields (readValue depth) text) fields rest := by
  cases fields with
  | nil =>
    have closing := skipBlanks_cons rest (show isBlank '}' = false from rfl)
    refine ⟨'}' :: rest, rfl, ?_⟩
    unfold readFields
    split
    · next none => cases closing.symm.trans none
    · next others found =>
      obtain ⟨_, rfl⟩ := List.cons.inj (closing.symm.trans found)
      exact ⟨_, rfl⟩
    · next notClosing => exact absurd closing (notClosing _)
  | cons field others =>
    obtain ⟨key, value⟩ := field
    have behind := readMoreFields_fieldsText others rest
      (fun other member => reads other (by simp [member]))
    have first := readField_text key value (fieldsText others ++ rest) (reads (key, value) (by simp))
      (fieldsText_boundary others rest)
    have opening : skipBlanks (quote key ++ ':' :: value.text ++ (fieldsText others ++ rest)) =
        quote key ++ ':' :: value.text ++ (fieldsText others ++ rest) :=
      skipBlanks_cons _ rfl
    refine ⟨quote key ++ ':' :: value.text ++ (fieldsText others ++ rest), by simp [Value.text], ?_⟩
    unfold readFields
    split
    · next none => cases opening.symm.trans none
    · next closed => cases opening.symm.trans closed
    · refine first.bind _ ?_
      intro shorter
      refine behind.bind _ ?_
      intro below
      exact Yields.returned _ rfl

/-- An object reads back with its fields put in order. -/
theorem object_readsBack {depth : Nat} (fields : List (String × Value))
    (reads : ∀ field ∈ fields, ReadsBack depth field.2) (rest : List Char) :
    Yields (readValue (depth + 1) ((Value.object fields).text ++ rest))
      (.object (Fields.ofList fields)) rest := by
  obtain ⟨text, written, read⟩ := readFields_text fields rest reads
  have start := skipBlanks_cons text (show isBlank '{' = false from rfl)
  rw [written]
  unfold readValue
  split
  · next none => cases start.symm.trans none
  · next first others found =>
    obtain ⟨rfl, rfl⟩ := List.cons.inj (start.symm.trans found)
    rw [if_neg (by decide), if_pos rfl]
    exact read.map _ _ (fun _ => rfl) (fun _ => rfl)

/-- The keys of fields stand in ascending order, so that none stands twice. -/
def Fields.Ascending (fields : Fields) : Prop :=
  fields.Pairwise fun first second => first.1 < second.1

/-- Setting a key brings in that field and no other. -/
theorem mem_of_mem_insert {key : String} {value : Value} {fields : Fields}
    {field : String × Value} (member : field ∈ Fields.insert key value fields) :
    field = (key, value) ∨ field ∈ fields := by
  induction fields with
  | nil => exact .inl (List.mem_singleton.mp member)
  | cons first others inductionHypothesis =>
    rw [Fields.insert] at member
    split at member
    · exact List.mem_cons.mp member
    · split at member
      · rcases List.mem_cons.mp member with same | later
        · exact .inl same
        · exact .inr (List.mem_cons_of_mem _ later)
      · rcases List.mem_cons.mp member with same | later
        · exact .inr (List.mem_cons.mpr (.inl same))
        · exact (inductionHypothesis later).imp_right (List.mem_cons_of_mem _)

/-- An object has no field that is not among those it was made from. -/
theorem mem_of_mem_ofList {fields : List (String × Value)} {field : String × Value}
    (member : field ∈ Fields.ofList fields) : field ∈ fields := by
  have gathered (done others : Fields)
      (present : field ∈ others.foldl (fun object field => Fields.insert field.1 field.2 object) done) :
      field ∈ done ∨ field ∈ others := by
    induction others generalizing done with
    | nil => exact .inl present
    | cons first others inductionHypothesis =>
      rcases inductionHypothesis (Fields.insert first.1 first.2 done) present with early | late
      · rcases mem_of_mem_insert early with same | before
        · exact .inr (List.mem_cons.mpr (.inl same))
        · exact .inl before
      · exact .inr (List.mem_cons_of_mem _ late)
  simpa using gathered [] fields member

/-- A key below the first one is put in front of it. -/
theorem insert_before {key otherKey : String} {value otherValue : Value} {rest : Fields}
    (below : key < otherKey) :
    Fields.insert key value ((otherKey, otherValue) :: rest) =
      (key, value) :: (otherKey, otherValue) :: rest := by
  rw [Fields.insert, if_pos below]

/-- A key above the first one is put somewhere behind it. -/
theorem insert_behind {key otherKey : String} {value otherValue : Value} {rest : Fields}
    (above : otherKey < key) :
    Fields.insert key value ((otherKey, otherValue) :: rest) =
      (otherKey, otherValue) :: Fields.insert key value rest := by
  have notBefore : ¬key < otherKey := String.lt_asymm above
  have different : key ≠ otherKey := by
    rintro rfl
    exact String.lt_irrefl key above
  rw [Fields.insert, if_neg notBefore, if_neg different]

/-- A field whose key is above all others is put behind them. -/
theorem insert_above (key : String) (value : Value) (fields : Fields)
    (above : ∀ field ∈ fields, field.1 < key) :
    Fields.insert key value fields = fields ++ [(key, value)] := by
  induction fields with
  | nil => rfl
  | cons field others inductionHypothesis =>
    rw [insert_behind (above field (by simp)),
      inductionHypothesis (fun field member => above field (by simp [member])), List.cons_append]

/-- Fields that are in order already are left as they are. The fields put in so far
are a beginning of the whole, and each further one belongs behind them. -/
theorem ofList_ascending (fields : Fields) (ascending : fields.Ascending) :
    Fields.ofList fields = fields := by
  have extended (done others : Fields) (sorted : (done ++ others).Ascending) :
      others.foldl (fun object field => Fields.insert field.1 field.2 object) done =
        done ++ others := by
    induction others generalizing done with
    | nil => simp
    | cons field others inductionHypothesis =>
      have above : ∀ earlier ∈ done, earlier.1 < field.1 := by
        intro earlier member
        exact (List.pairwise_append.mp sorted).2.2 earlier member field (by simp)
      rw [List.foldl_cons, insert_above field.1 field.2 done above,
        inductionHypothesis (done ++ [field]) (by simpa using sorted), List.append_assoc,
        List.singleton_append]
  exact extended [] fields ascending

/-- The values that nest within a depth, have no floating-point number, and whose
objects are in order. -/
inductive Exact : Nat → Value → Prop where
  | null (depth : Nat) : Exact depth .null
  | bool (depth : Nat) (value : Bool) : Exact depth (.bool value)
  | whole (depth : Nat) (value : Int) (inRange : -(2 ^ 63) ≤ value ∧ value < 2 ^ 64) :
      Exact depth (.number (.whole value inRange))
  | string (depth : Nat) (text : String) : Exact depth (.string text)
  | array (depth : Nat) (items : List Value) (exact : ∀ item ∈ items, Exact depth item) :
      Exact (depth + 1) (.array items)
  | object (depth : Nat) (fields : Fields) (ascending : fields.Ascending)
      (exact : ∀ field ∈ fields, Exact depth field.2) : Exact (depth + 1) (.object fields)

/-- Exact values read back. The induction is on why a value is exact: what it
contains reads back with one level of nesting less. -/
theorem Exact.readsBack {depth : Nat} {value : Value} (exact : Exact depth value) :
    ReadsBack depth value := by
  induction exact with
  | null depth => exact null_readsBack depth
  | bool depth value => exact bool_readsBack depth value
  | whole depth value inRange => exact whole_readsBack depth value inRange
  | string depth text => exact string_readsBack depth text
  | array depth items _ inductionHypothesis => exact array_readsBack items inductionHypothesis
  | object depth fields ascending _ inductionHypothesis =>
    intro rest _
    have object := object_readsBack fields inductionHypothesis rest
    rwa [ofList_ascending fields ascending] at object

/-- The text of an exact value denotes that value. -/
theorem Exact.read_compact {value : Value} (exact : Exact maxDepth value) :
    read value.compact = .ok value := by
  have reads := exact.readsBack [] boundary_nil
  rw [List.append_nil] at reads
  exact read_of_yields reads

/-- An object of exact values, in whatever order it is written, denotes the object in
order. -/
theorem read_compact_object (fields : List (String × Value))
    (exact : ∀ field ∈ fields, Exact (maxDepth - 1) field.2) :
    read (Value.object fields).compact = .ok (.object (Fields.ofList fields)) := by
  have reads := object_readsBack fields (fun field member => (exact field member).readsBack) []
  rw [List.append_nil] at reads
  exact read_of_yields reads

/-- The fields that stand in the text of an object, in their order and with every
repetition, if the text holds an object and nothing else. -/
def writtenFields? (text : String) : Option (List (String × Value)) :=
  match text.toList with
  | '{' :: inside =>
    match readFields (readValue (maxDepth - 1)) inside with
    | .ok parsed => if skipBlanks parsed.rest = [] then some parsed.value else none
    | .error _ => none
  | _ => none

/-- The text of an object of exact values has just its fields, as they are listed. -/
theorem writtenFields_compact (fields : List (String × Value))
    (exact : ∀ field ∈ fields, Exact (maxDepth - 1) field.2) :
    writtenFields? (Value.object fields).compact = some fields := by
  obtain ⟨text, written, shorter, read⟩ :=
    readFields_text fields [] (fun field member => (exact field member).readsBack)
  rw [List.append_nil] at written
  rw [writtenFields?, Value.compact, String.toList_ofList, written]
  simp [read, skipBlanks]

end ExchangeWallet.Json
