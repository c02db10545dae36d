import OutlineTable.Json
import OutlineTable.Proofs.Steps

/-! Printed JSON read back. Every escape reads as the UTF-16 units of its character, so a quoted text is one
string token again; spaces and marks end the token before them. A printed value is read wherever a value may
begin and leaves the open arrays and objects as they were; the members of a printed object are read in
order. -/
namespace OutlineTable.Json

open Text

namespace Token

/-- A scanner outside strings that has read these tokens, last first. A word that is still
being read counts as read. -/
structure Scanner.Settled (s : Scanner) (before : List Token) : Prop where
  mode : s.mode = .between ∨ ∃ letters, s.mode = .word letters
  settle : s.settle = before

theorem settled_between (before : List Token) : Scanner.Settled ⟨before, .between⟩ before :=
  ⟨.inl rfl, rfl⟩

theorem step_of_settled {s : Scanner} (settled : s.Settled before) (c : Char) :
    s.step c = some (s.outside c) := by
  rcases settled.mode with mode | ⟨letters, mode⟩ <;> rw [Scanner.step, mode]

theorem step_space {s : Scanner} (settled : s.Settled before) (space : isSpace c = true) :
    s.step c = some ⟨before, .between⟩ := by
  have other : c ≠ '\x22' := by
    rintro rfl
    contradiction
  rw [step_of_settled settled, Scanner.outside, if_neg other, if_pos space, settled.settle]

theorem ofChar?_plain (mark : Mark.ofChar? c = some found) : c ≠ '\x22' ∧ isSpace c = false := by
  unfold Mark.ofChar? at mark
  split at mark <;> first | contradiction | exact ⟨by decide, rfl⟩

theorem step_mark {s : Scanner} {found : Mark} (settled : s.Settled before)
    (mark : Mark.ofChar? c = some found) : s.step c = some ⟨.mark found :: before, .between⟩ := by
  obtain ⟨other, solid⟩ := ofChar?_plain mark
  rw [step_of_settled settled, Scanner.outside, if_neg other, if_neg (by simp [solid]), mark,
    settled.settle]

theorem finish_of_settled {s : Scanner} (settled : s.Settled before) :
    s.finish = some before.reverse := by
  rcases settled.mode with mode | ⟨letters, mode⟩ <;> rw [Scanner.finish, mode, settled.settle]

/-- A text that is scanned as these tokens where a token may begin. -/
def Scans (text : Text) (tokens : List Token) : Prop :=
  ∀ before, ∃ s, text.foldlM Scanner.step ⟨before, .between⟩ = some s ∧
    s.Settled (tokens.reverse ++ before)

theorem scan?_eq_some (scans : Scans text tokens) : scan? text = some tokens := by
  obtain ⟨s, run, settled⟩ := scans []
  have finish := finish_of_settled settled
  rw [List.append_nil, List.reverse_reverse] at finish
  rw [scan?, run]
  exact finish

theorem scans_nil : Scans [] [] := fun before => ⟨_, rfl, settled_between before⟩

/-- A space ends the token before it. -/
theorem Scans.space {tokens more : List Token} (first : Scans before tokens)
    (space : isSpace c = true) (second : Scans after more) :
    Scans (before ++ c :: after) (tokens ++ more) := by
  intro earlier
  obtain ⟨s, run, settled⟩ := first earlier
  obtain ⟨t, rest, last⟩ := second (tokens.reverse ++ earlier)
  refine ⟨t, ?_, by simpa using last⟩
  rw [run_append run, run_cons (step_space settled space), rest]

theorem Scans.mark {tokens more : List Token} {found : Mark} (first : Scans before tokens)
    (mark : Mark.ofChar? c = some found) (second : Scans after more) :
    Scans (before ++ c :: after) (tokens ++ .mark found :: more) := by
  intro earlier
  obtain ⟨s, run, settled⟩ := first earlier
  obtain ⟨t, rest, last⟩ := second (.mark found :: (tokens.reverse ++ earlier))
  refine ⟨t, ?_, by simpa using last⟩
  rw [run_append run, run_cons (step_mark settled mark), rest]

/-- The units of a text join those read before it; both stand last first. -/
def ReadsUnits (text : Text) (more : List Nat) : Prop :=
  ∀ tokens units, text.foldlM Scanner.step ⟨tokens, .string units⟩ =
    some ⟨tokens, .string (more.reverse ++ units)⟩

theorem readsUnits_nil : ReadsUnits [] [] := fun _ _ => rfl

theorem ReadsUnits.append {units more : List Nat} (first : ReadsUnits before units)
    (second : ReadsUnits after more) : ReadsUnits (before ++ after) (units ++ more) := by
  intro tokens earlier
  rw [run_append (first tokens earlier), second, List.reverse_append, List.append_assoc]

/-- A short escape reads as the character it stands for. -/
theorem readsUnits_short {short c : Char} (meant : unescape? short = some c)
    (single : unitsOf c = [c.toNat]) : ReadsUnits ['\\', short] (unitsOf c) := by
  intro tokens units
  have other : short ≠ 'u' := by
    rintro rfl
    contradiction
  rw [single]
  simp [Scanner.step, meant, other]

theorem readsUnits_printable {c : Char} (quote : c ≠ '\x22') (backslash : c ≠ '\\')
    (printable : 0x20 ≤ c.toNat) : ReadsUnits [c] (unitsOf c) := by
  intro tokens units
  have control : ¬c.toNat < 0x20 := Nat.not_lt.mpr printable
  simp [Scanner.step, quote, backslash, control]

/-- Four digits read as their number. -/
theorem readsUnits_code (small : unit < 0x10000) : ReadsUnits ('\\' :: 'u' :: hex 4 unit) [unit] := by
  intro tokens units
  have number : hexNumber? (hex 4 unit) = some unit := hexNumber?_hex small
  obtain ⟨a, b, c, d, digits⟩ : ∃ a b c d, hex 4 unit = [a, b, c, d] := ⟨_, _, _, _, rfl⟩
  rw [digits] at number ⊢
  simp [Scanner.step, number]

theorem readsUnits_codes {more : List Nat} (small : ∀ unit ∈ more, unit < 0x10000) :
    ReadsUnits (more.flatMap fun unit => '\\' :: 'u' :: hex 4 unit) more := by
  induction more with
  | nil => exact readsUnits_nil
  | cons unit more ih =>
    have first := readsUnits_code (small unit List.mem_cons_self)
    have later := ih fun other member => small other (List.mem_cons_of_mem unit member)
    exact first.append later

theorem unit_lt_of_mem_unitsOf (member : unit ∈ unitsOf c) : unit < 0x10000 := by
  have valid := c.valid
  simp only [UInt32.isValidChar, Nat.isValidChar] at valid
  have value : c.val.toNat = c.toNat := rfl
  simp only [unitsOf] at member
  split at member
  · rw [List.mem_singleton.mp member]
    omega
  · simp only [List.mem_cons, List.not_mem_nil, or_false] at member
    omega

theorem readsUnits_escape (c : Char) : ReadsUnits (escape c) (unitsOf c) := by
  by_cases quote : c = '\x22'
  · exact quote ▸ readsUnits_short rfl rfl
  by_cases backslash : c = '\\'
  · exact backslash ▸ readsUnits_short rfl rfl
  by_cases newline : c = '\n'
  · exact newline ▸ readsUnits_short rfl rfl
  by_cases carriage : c = '\r'
  · exact carriage ▸ readsUnits_short rfl rfl
  by_cases tab : c = '\t'
  · exact tab ▸ readsUnits_short rfl rfl
  by_cases back : c = '\x08'
  · exact back ▸ readsUnits_short rfl rfl
  by_cases feed : c = '\x0c'
  · exact feed ▸ readsUnits_short rfl rfl
  rw [escape, if_neg quote, if_neg backslash, if_neg newline, if_neg carriage, if_neg tab, if_neg back,
    if_neg feed]
  split
  next printable => exact readsUnits_printable quote backslash printable.1
  next => exact readsUnits_codes fun _ => unit_lt_of_mem_unitsOf

theorem readsUnits_flatMap_escape (text : Text) : ReadsUnits (text.flatMap escape) (units text) := by
  induction text with
  | nil => exact readsUnits_nil
  | cons c text ih =>
    rw [List.flatMap_cons, units_cons]
    exact (readsUnits_escape c).append ih

/-- A quoted text is one string token. -/
theorem scans_quote (text : Text) : Scans (quote text) [.string text] := by
  intro before
  have inner := readsUnits_flatMap_escape text before []
  refine ⟨⟨.string text :: before, .between⟩, ?_, settled_between _⟩
  have opened : Scanner.step ⟨before, .between⟩ '\x22' = some ⟨before, .string []⟩ := rfl
  rw [quote, List.cons_append, run_cons opened, run_append inner]
  simp [Scanner.step, ofUnits_units]

theorem scans_printBool (value : Bool) : Scans (printBool value) [.word (printBool value)] := by
  intro before
  cases value <;> exact ⟨_, rfl, .inr ⟨_, rfl⟩, rfl⟩

end Token

open Token

/-- A text of one value. -/
def Reads (text : Text) (value : Json) : Prop :=
  ∃ tokens, Scans text tokens ∧
    ∀ stack, tokens.foldlM Reader.step ⟨stack, .value⟩ = some ⟨stack, .after value⟩

theorem parse?_of_reads (reads : Reads text value) : parse? text = some value := by
  obtain ⟨tokens, scans, run⟩ := reads
  rw [parse?, scan?_eq_some scans, Option.bind_eq_bind, Option.bind_some, run [],
    Option.bind_eq_bind, Option.bind_some, Reader.finish]

theorem reads_quote (text : Text) : Reads (quote text) (.string text) :=
  ⟨_, scans_quote text, fun _ => rfl⟩

theorem reads_printBool (value : Bool) : Reads (printBool value) (.bool value) :=
  ⟨_, scans_printBool value, fun _ => by cases value <;> rfl⟩

/-- A written member under its name and value. -/
structure ReadsMember (written : Text × Text) (member : Text × Json) : Prop where
  name : written.1 = member.1
  value : Reads written.2 member.2

/-- Where a name may come, and the members before it, last first. -/
inductive Goal.Named : Goal → List (Text × Json) → Prop
  | first : Named .firstName []
  | later (earlier : List (Text × Json)) : Named (.name earlier) earlier

theorem step_name (named : Goal.Named goal earlier) (stack : List Frame) (name : Text) :
    Reader.step ⟨stack, goal⟩ (.string name) = some ⟨stack, .colon earlier name⟩ := by
  cases named <;> rfl

theorem reads_printMember (reads : ReadsMember written member) :
    ∃ tokens, Scans (printMember written) tokens ∧ ∀ stack goal earlier, Goal.Named goal earlier →
      tokens.foldlM Reader.step ⟨stack, goal⟩ =
        some ⟨.object earlier member.1 :: stack, .after member.2⟩ := by
  obtain ⟨tokens, scans, run⟩ := reads.value
  have indented : Scans (' ' :: ' ' :: quote written.1) [.string written.1] :=
    scans_nil.space rfl (scans_nil.space rfl (scans_quote written.1))
  refine ⟨_, indented.mark rfl (scans_nil.space rfl scans), ?_⟩
  intro stack goal earlier named
  have colon : Reader.step ⟨stack, .colon earlier written.1⟩ (.mark .colon) =
    some ⟨.object earlier written.1 :: stack, .value⟩ := rfl
  rw [List.singleton_append, run_cons (step_name named stack written.1), run_cons colon,
    List.nil_append, run, reads.name]

/-- The members of an object, up to the brace that closes it. -/
theorem reads_members (reads : List.Forall₂ ReadsMember written members) (nonempty : written ≠ []) :
    ∃ tokens, Scans (List.intercalate [',', '\n'] (written.map printMember)) tokens ∧
      ∀ stack goal earlier, Goal.Named goal earlier →
        (tokens ++ [Token.mark .closeBrace]).foldlM Reader.step ⟨stack, goal⟩ =
          some ⟨stack, .after (.object (earlier.reverse ++ members))⟩ := by
  induction reads with
  | nil => contradiction
  | @cons first member rest members readsFirst readsRest ih =>
    obtain ⟨tokens, scans, run⟩ := reads_printMember readsFirst
    cases readsRest with
    | nil =>
      refine ⟨tokens, by simpa [List.intercalate] using scans, ?_⟩
      intro stack goal earlier named
      rw [run_append (run stack goal earlier named)]
      simp [Reader.step, Reader.continue?]
    | @cons second next rest members =>
      obtain ⟨more, scansRest, runRest⟩ := ih (List.cons_ne_nil _ _)
      refine ⟨tokens ++ Token.mark .comma :: more, ?_, ?_⟩
      · have joined : Scans (printMember first ++ ',' :: '\n' :: _) (tokens ++ .mark .comma :: more) :=
          scans.mark rfl (scans_nil.space rfl scansRest)
        simpa [List.intercalate] using joined
      · intro stack goal earlier named
        have comma : Reader.step ⟨.object earlier member.1 :: stack, .after member.2⟩ (.mark .comma) =
          some ⟨stack, .name (member :: earlier)⟩ := rfl
        rw [List.append_assoc, run_append (run stack goal earlier named), List.cons_append,
          run_cons comma, runRest stack _ _ (.later _)]
        simp

/-- A printed object is read with its members in order. -/
theorem reads_printObject (reads : List.Forall₂ ReadsMember written members)
    (nonempty : written ≠ []) : Reads (printObject written) (.object members) := by
  obtain ⟨tokens, scans, run⟩ := reads_members reads nonempty
  have opened : Scans (printObject written) (.mark .openBrace :: (tokens ++ [.mark .closeBrace])) :=
    scans_nil.mark rfl (scans_nil.space rfl
      (scans.space rfl (scans_nil.mark rfl scans_nil)))
  refine ⟨_, opened, fun stack => ?_⟩
  have first : Reader.step ⟨stack, .value⟩ (.mark .openBrace) = some ⟨stack, .firstName⟩ := rfl
  rw [run_cons first, run stack _ _ .first, List.reverse_nil, List.nil_append]

end OutlineTable.Json
