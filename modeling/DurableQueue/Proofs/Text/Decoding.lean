import DurableQueue.Proofs.Text.Front

/-!
# Decoding byte strings that need not be texts

Reading a byte string ends in one of three ways (`Stops`): the whole of it is a text, or after a text come
bytes that are wrong, or after a text it is cut off. From there, a byte string decodes exactly if it is a text
(`decode_eq_ok_iff`), and otherwise the fault says how far the longest text at its front goes and what is
wrong behind it (`describes_of_error`). The two readers stop at the same places: the lossy one puts one
replacement character for each fault and reads on behind it (`decodeLossy_of_error`).

A text at the front can always be taken away, as no character is the beginning of another one
(`encode_append_eq`).
-/

namespace DurableQueue.Utf8

/-! ## Texts one after another -/

theorem encode_append (text more : String) : encode (text ++ more) = encode text ++ encode more := by
  simp [encode]

/-- A text that begins with another one is that and a rest, and so are its bytes. -/
theorem encode_append_eq {text whole : String} {rest : Bytes} (h : encode text ++ rest = encode whole) :
    ∃ more, whole = text ++ more ∧ rest = encode more := by
  suffices ∀ cs ds : List Char, cs.flatMap String.utf8EncodeChar ++ rest = ds.flatMap String.utf8EncodeChar →
      ∃ more, ds = cs ++ more ∧ rest = more.flatMap String.utf8EncodeChar by
    obtain ⟨more, chars, same⟩ := this text.toList whole.toList h
    refine ⟨String.ofList more, String.toList_inj.1 ?_, ?_⟩
    · rw [chars, String.toList_append, String.toList_ofList]
    · rw [same, encode_ofList]
  intro cs ds same
  induction cs generalizing ds with
  | nil => exact ⟨ds, rfl, same⟩
  | cons c cs ih =>
    rw [List.flatMap_cons, List.append_assoc] at same
    have front := next_encoded c (cs.flatMap String.utf8EncodeChar ++ rest)
    cases ds with
    | nil =>
      rw [same] at front
      cases front
    | cons d ds =>
      rw [same, List.flatMap_cons, next_encoded] at front
      obtain ⟨rfl, later⟩ := Front.char.inj front
      obtain ⟨more, rfl, rest_eq⟩ := ih ds later.symm
      exact ⟨more, rfl, rest_eq⟩

theorem IsText.of_append {text : String} {rest : Bytes} (h : IsText (encode text ++ rest)) : IsText rest := by
  obtain ⟨whole, same⟩ := h
  obtain ⟨more, -, rfl⟩ := encode_append_eq same
  exact ⟨more, rfl⟩

theorem begins_append {text : String} {rest : Bytes} : Begins (encode text ++ rest) ↔ Begins rest := by
  constructor
  · rintro ⟨more, h⟩
    rw [List.append_assoc] at h
    exact ⟨more, h.of_append⟩
  · rintro ⟨more, whole, same⟩
    exact ⟨more, text ++ whole, by rw [List.append_assoc, same, encode_append]⟩

/-! ## The strict reader -/

/-- How the reading of a byte string ends. -/
inductive Stops : Bytes → Except Fault String → Prop where
  | whole (text : String) : Stops (encode text) (.ok text)
  | wrong (text : String) {rest count later} (front : next rest = .invalid count later) :
      Stops (encode text ++ rest) (.error ⟨(encode text).length, some count⟩)
  | cutOff (text : String) {rest} (front : next rest = .incomplete) :
      Stops (encode text ++ rest) (.error ⟨(encode text).length, none⟩)

theorem stops_decodeFrom (read : List Char) (bs : Bytes) :
    Stops (encode (String.ofList read.reverse) ++ bs)
      ((decodeFrom (encode (String.ofList read.reverse)).length read bs).map String.ofList) := by
  generalize start : (encode (String.ofList read.reverse)).length = index
  fun_induction decodeFrom index read bs with
  | case1 index read =>
    rw [List.append_nil]
    exact .whole _
  | case2 index read b tail c rest front _ ih =>
    have longer : encode (String.ofList (c :: read).reverse) =
        encode (String.ofList read.reverse) ++ String.utf8EncodeChar c := by
      rw [encode_ofList, encode_ofList, List.reverse_cons, List.flatMap_append, List.flatMap_singleton]
    rw [eq_of_next_char front, ← List.append_assoc, ← longer]
    refine ih ?_
    rw [longer, List.length_append, start, String.length_utf8EncodeChar]
  | case3 index read b tail count later front =>
    rw [← start]
    exact .wrong _ front
  | case4 index read b tail front =>
    rw [← start]
    exact .cutOff _ front
  | case5 index read b tail front => exact absurd front (next_cons_ne_empty b tail)

theorem stops_decode (bs : Bytes) : Stops bs (decode bs) := by
  have start : encode (String.ofList ([] : List Char).reverse) = [] := rfl
  have stops := stops_decodeFrom [] bs
  rwa [start] at stops

/-- A byte string is decoded as a text exactly if it is that text in bytes. -/
theorem decode_eq_ok_iff {bs : Bytes} {text : String} : decode bs = .ok text ↔ bs = encode text := by
  constructor
  · intro h
    have stops := stops_decode bs
    rw [h] at stops
    cases stops
    rfl
  · rintro rfl
    exact decode_encode text

/-! ## Faults -/

/-- What a fault says about a byte string. Up to its index reaches the longest text at the front, and at the
index the string is wrong for certain or cut off. -/
structure Fault.Describes (fault : Fault) (bs : Bytes) : Prop where
  within : fault.index ≤ bs.length
  valid : IsText (bs.take fault.index)
  longest : ∀ n, fault.index < n → n ≤ bs.length → ¬ IsText (bs.take n)
  incomplete : fault.invalid = none ↔ Begins bs
  wrong : ∀ count, fault.invalid = some count → Wrong (bs.drop fault.index) count

/-- Behind a text, where no character stands, no longer text begins at the front. -/
theorem not_isText_take {text : String} {rest : Bytes} (no_char : ∀ c later, next rest ≠ .char c later) {n : Nat}
    (more : (encode text).length < n) (within : n ≤ (encode text ++ rest).length) :
    ¬ IsText ((encode text ++ rest).take n) := by
  intro longer
  rw [List.take_append, List.take_of_length_le (Nat.le_of_lt more)] at longer
  have some_byte : rest.take (n - (encode text).length) ≠ [] := by
    rw [List.length_append] at within
    rw [← List.length_pos_iff, List.length_take]
    omega
  obtain ⟨c, later, front⟩ := longer.of_append.front some_byte
  have there := eq_of_next_char front
  refine no_char c (later ++ rest.drop (n - (encode text).length)) ?_
  rw [← next_encoded c, ← List.append_assoc, ← there, List.take_append_drop]

theorem describes_of_error {bs : Bytes} {fault : Fault} (h : decode bs = .error fault) : fault.Describes bs := by
  have stops := stops_decode bs
  rw [h] at stops
  cases stops with
  | @wrong text rest count later front =>
    have wrong := (wrong_of_next_invalid front).1
    have no_char : ∀ c later, next rest ≠ .char c later := by simp [front]
    refine ⟨by simp, ⟨text, List.take_left⟩, fun n => not_isText_take no_char, ?_, ?_⟩
    · rw [begins_append]
      exact iff_of_false nofun wrong.beyond
    · intro _ same
      obtain rfl := Option.some.inj same
      rwa [List.drop_left]
  | @cutOff text rest front =>
    have no_char : ∀ c later, next rest ≠ .char c later := by simp [front]
    refine ⟨by simp, ⟨text, List.take_left⟩, fun n => not_isText_take no_char, ?_, nofun⟩
    rw [begins_append]
    exact iff_of_true rfl (begins_of_incomplete front)

/-! ## The lossy reader -/

theorem decodeLossyFrom_eq (read : List Char) (bs : Bytes) :
    decodeLossyFrom read bs = match next bs with
      | .char c rest => decodeLossyFrom (c :: read) rest
      | .invalid _ rest => decodeLossyFrom ('\uFFFD' :: read) rest
      | .incomplete => ('\uFFFD' :: read).reverse
      | .empty => read.reverse := by
  cases bs with
  | nil => rw [decodeLossyFrom, next]
  | cons b tail =>
    rw [decodeLossyFrom]
    split <;> simp [*]

/-- What was read before stands in front of what is read. -/
theorem decodeLossyFrom_append (read before : List Char) (bs : Bytes) :
    decodeLossyFrom (read ++ before) bs = before.reverse ++ decodeLossyFrom read bs := by
  fun_induction decodeLossyFrom read bs with
  | case1 read => rw [decodeLossyFrom_eq, next, List.reverse_append]
  | case2 read b tail c rest front _ ih => rw [decodeLossyFrom_eq, front, ← ih, List.cons_append]
  | case3 read b tail count rest front _ ih => rw [decodeLossyFrom_eq, front, ← ih, List.cons_append]
  | case4 read b tail front => rw [decodeLossyFrom_eq, front, ← List.cons_append, List.reverse_append]
  | case5 read b tail front => exact absurd front (next_cons_ne_empty b tail)

/-- The lossy view of a byte string by what stands at its front. -/
theorem decodeLossy_eq (bs : Bytes) :
    decodeLossy bs = match next bs with
      | .char c rest => String.singleton c ++ decodeLossy rest
      | .invalid _ rest => "\uFFFD" ++ decodeLossy rest
      | .incomplete => "\uFFFD"
      | .empty => "" := by
  have read (c : Char) (rest : Bytes) :
      String.ofList (decodeLossyFrom [c] rest) = String.singleton c ++ decodeLossy rest := by
    rw [← List.nil_append [c], decodeLossyFrom_append [] [c], String.ofList_append, decodeLossy]
    rfl
  rw [decodeLossy, decodeLossyFrom_eq]
  cases next bs with
  | char c rest => exact read c rest
  | invalid count rest => exact read '\uFFFD' rest
  | incomplete => rfl
  | empty => rfl

/-- A text at the front is read as it is. -/
theorem decodeLossy_encode_append (text : String) (rest : Bytes) :
    decodeLossy (encode text ++ rest) = text ++ decodeLossy rest := by
  suffices ∀ cs : List Char, decodeLossy (cs.flatMap String.utf8EncodeChar ++ rest) =
      String.ofList cs ++ decodeLossy rest by
    have whole := this text.toList
    rwa [String.ofList_toList] at whole
  intro cs
  induction cs with
  | nil => rw [List.flatMap_nil, List.nil_append, String.ofList_nil, String.empty_append]
  | cons c cs ih =>
    rw [List.flatMap_cons, List.append_assoc, decodeLossy_eq, next_encoded]
    dsimp only
    rw [ih, ← String.append_assoc, String.ofList_cons]

theorem decodeLossy_encode (text : String) : decodeLossy (encode text) = text := by
  have whole := decodeLossy_encode_append text []
  rwa [List.append_nil, decodeLossy_eq [], next, String.append_empty] at whole

/-- Behind the longest text comes one replacement character for what is wrong there, and then the lossy view of
what is left. -/
theorem decodeLossy_of_error {bs : Bytes} {fault : Fault} (h : decode bs = .error fault) :
    ∃ text, encode text = bs.take fault.index ∧ decodeLossy bs = text ++ "\uFFFD" ++
      (match fault.invalid with
        | some count => decodeLossy (bs.drop (fault.index + count))
        | none => "") := by
  have stops := stops_decode bs
  rw [h] at stops
  cases stops with
  | @wrong text rest count later front =>
    refine ⟨text, by simp, ?_⟩
    have left : (encode text ++ rest).drop ((encode text).length + count) = later := by
      rw [← List.drop_drop, List.drop_left, (wrong_of_next_invalid front).2]
    dsimp only
    rw [decodeLossy_encode_append, decodeLossy_eq rest, front, left, String.append_assoc]
  | @cutOff text rest front =>
    refine ⟨text, by simp, ?_⟩
    rw [decodeLossy_encode_append, decodeLossy_eq rest, front, String.append_empty]

end DurableQueue.Utf8
