import OpenTogetherTube.Client.EpisodeSeries

/-!
# Shifting an episode

A number in a link is replaced by another, which may be longer. No digit decides where the
path of a link begins and ends, so the new link is read as the old one with that one number
changed.
-/

namespace OpenTogetherTube.EpisodeSeries

open Lib

/-- A run of digits that is not empty. -/
structure Digits (part : List Char) : Prop where
  some_ : part ≠ []
  all : ∀ char ∈ part, char.isDigit = true

variable {front part other back : List Char}

theorem Digits.fails (digits : Digits part) {test : Char → Bool}
    (spares : ∀ char, char.isDigit = true → test char = false) : ∀ char ∈ part, test char = false :=
  fun char listed => spares char (digits.all char listed)

theorem isDigit_spares {mark : Char} (not_ : mark.isDigit = false) :
    ∀ char, char.isDigit = true → (char == mark) = false := by
  intro char digit
  rw [beq_eq_false_iff_ne]
  rintro rfl
  rw [not_] at digit
  cases digit

theorem isDigit_spares_query :
    ∀ char, char.isDigit = true → queryOrFragment char = false := by
  intro char digit
  rw [queryOrFragment, isDigit_spares (by decide) char digit, isDigit_spares (by decide) char digit]
  rfl

theorem authorityEnd_splice (digits : Digits part) :
    authorityEnd (front ++ part ++ back) =
      ((infixIdx? [':', '/', '/'] front).or
        ((infixIdx? [':', '/', '/'] back).map
          (· + (front.length + part.length)))).elim 0 (· + 3) := by
  rw [authorityEnd, infixIdx?_splice (by decide) digits.some_]
  intro char listed
  have digit := digits.all char listed
  simp only [List.mem_cons, List.not_mem_nil, or_false]
  rintro (rfl | rfl | rfl) <;> exact absurd digit (by decide)

theorem authorityEnd_le_pathStart (url : List Char) : authorityEnd url ≤ pathStart url :=
  Nat.le_add_right _ _

/-- An authority that ends before a part of digits ends there whatever the digits. -/
theorem authorityEnd_stable (digits : Digits part)
    (inside : authorityEnd (front ++ part ++ back) ≤ front.length) (digits' : Digits other) :
    authorityEnd (front ++ other ++ back) = authorityEnd (front ++ part ++ back) := by
  rw [authorityEnd_splice digits] at inside ⊢
  rw [authorityEnd_splice digits']
  revert inside
  cases infixIdx? [':', '/', '/'] front with
  | some index => exact fun _ => rfl
  | none =>
      cases infixIdx? [':', '/', '/'] back with
      | none => exact fun _ => rfl
      | some index =>
          intro inside
          simp only [Option.none_or, Option.map_some, Option.elim_some] at inside
          omega

/-- So does the path begin. -/
theorem pathStart_stable (digits : Digits part)
    (inside : pathStart (front ++ part ++ back) ≤ front.length) (digits' : Digits other) :
    pathStart (front ++ other ++ back) = pathStart (front ++ part ++ back) := by
  have within := (authorityEnd_le_pathStart _).trans inside
  have same := authorityEnd_stable digits within digits'
  unfold pathStart at inside ⊢
  rw [same]
  generalize authorityEnd (front ++ part ++ back) = end_ at within inside ⊢
  have slash : ∀ char, char.isDigit = true → (char == '/') = false := isDigit_spares (by decide)
  have drop (middle : List Char) :
      (front ++ middle ++ back).drop end_ = front.drop end_ ++ middle ++ back := by
    rw [List.append_assoc, List.drop_append_of_le_length within, List.append_assoc]
  rw [drop, findIdx_splice (digits.fails slash)] at inside
  rw [drop, drop, findIdx_splice (digits.fails slash), findIdx_splice (digits'.fails slash)]
  split
  · rfl
  · next beyond =>
      rw [if_neg beyond, List.length_drop] at inside
      have positive := List.length_pos_iff.mpr digits.some_
      omega

theorem numbersStop_le_pathStop (url : List Char) : numbersStop url ≤ pathStop url := by
  unfold numbersStop
  split
  · exact le_rfl
  · next lastDot found =>
      have within := lt_length_of_lastIdx? found
      rw [List.length_take] at within
      split
      · omega
      · exact le_rfl

theorem pathStop_splice (digits : Digits part)
    (inside : pathStart (front ++ part ++ back) ≤ front.length)
    (before : front.length + part.length ≤ pathStop (front ++ part ++ back))
    (digits' : Digits other) :
    pathStop (front ++ other ++ back) =
      front.length + other.length + back.findIdx queryOrFragment := by
  have same := pathStart_stable digits inside digits'
  unfold pathStop at before ⊢
  rw [same]
  generalize pathStart (front ++ part ++ back) = start at inside before ⊢
  have drop (middle : List Char) :
      (front ++ middle ++ back).drop start = front.drop start ++ middle ++ back := by
    rw [List.append_assoc, List.drop_append_of_le_length inside, List.append_assoc]
  rw [drop, findIdx_splice (digits.fails isDigit_spares_query)] at before
  rw [drop, findIdx_splice (digits'.fails isDigit_spares_query)]
  split
  · next early =>
      rw [if_pos early] at before
      rw [List.length_drop] at early
      omega
  · rw [List.length_drop]
    omega

theorem lastIndexOf_splice (digits : Digits part) {mark : Char} (not_ : mark.isDigit = false)
    (further : Nat) :
    lastIndexOf (front ++ part ++ back) mark (front.length + part.length + further) =
      ((lastIdx? (· == mark) (back.take (further + 1))).map
        (· + (front.length + part.length))).or (lastIdx? (· == mark) front) := by
  have taken : (front ++ part ++ back).take (front.length + part.length + further + 1) =
      front ++ part ++ back.take (further + 1) := by
    rw [← List.length_append, Nat.add_assoc, List.take_length_add_append]
  rw [lastIndexOf, taken, lastIdx?_splice (digits.fails (isDigit_spares not_))]

/-- The numbers end before the extension, whatever the digits before it. -/
theorem numbersStop_splice (digits : Digits part)
    (inside : pathStart (front ++ part ++ back) ≤ front.length)
    (before : front.length + part.length ≤ numbersStop (front ++ part ++ back)) :
    ∃ further, ∀ {other}, Digits other →
      numbersStop (front ++ other ++ back) = front.length + other.length + further := by
  have ends := before.trans (numbersStop_le_pathStop _)
  -- What the last dot and the last slash are, before the digits and behind them.
  generalize known : back.findIdx queryOrFragment = stop
  generalize dotBack : lastIdx? (· == '.') (back.take (stop + 1)) = lastDot
  generalize slashBack : lastIdx? (· == '/') (back.take (stop + 1)) = lastSlash
  have read {other : List Char} (digits' : Digits other) :
      numbersStop (front ++ other ++ back) =
        ((lastDot.map (· + (front.length + other.length))).or (lastIdx? (· == '.') front)).elim
          (front.length + other.length + stop) fun dot =>
            if ((lastSlash.map (· + (front.length + other.length))).or
                (lastIdx? (· == '/') front)).all (· < dot) ∧
              pathStart (front ++ part ++ back) ≤ dot then dot
            else front.length + other.length + stop := by
    unfold numbersStop
    rw [pathStop_splice digits inside ends digits', pathStart_stable digits inside digits', known,
      lastIndexOf_splice digits' (by decide), lastIndexOf_splice digits' (by decide), dotBack,
      slashBack]
    cases (lastDot.map (· + (front.length + other.length))).or (lastIdx? (· == '.') front) <;> rfl
  cases lastDot with
  | some dot =>
      refine ⟨if lastSlash.all (· < dot) then dot else stop, fun {other} digits' => ?_⟩
      rw [read digits']
      have same : ((lastSlash.map (· + (front.length + other.length))).or
          (lastIdx? (· == '/') front)).all (· < dot + (front.length + other.length)) =
            lastSlash.all (· < dot) := by
        cases lastSlash with
        | some slash => simp
        | none =>
            cases slash : lastIdx? (· == '/') front with
            | none => rfl
            | some index =>
                have early := lt_length_of_lastIdx? slash
                simp only [Option.map_none, Option.none_or, Option.all_some, Option.all_none,
                  decide_eq_true_eq]
                omega
      have behind : pathStart (front ++ part ++ back) ≤ dot + (front.length + other.length) := by
        omega
      simp only [Option.map_some, Option.some_or, Option.elim_some, same, behind, and_true]
      split
      · exact Nat.add_comm _ _
      · rfl
  | none =>
      refine ⟨stop, fun {other} digits' => ?_⟩
      have own := read digits
      rw [read digits']
      simp only [Option.map_none, Option.none_or] at own ⊢
      cases dot : lastIdx? (· == '.') front with
      | none => rfl
      | some index =>
          have early := lt_length_of_lastIdx? dot
          rw [dot, Option.elim_some] at own
          rw [Option.elim_some]
          refine if_neg fun cut => ?_
          -- A dot behind the last slash would end the numbers before the digits.
          have cut' : ((lastSlash.map (· + (front.length + part.length))).or
              (lastIdx? (· == '/') front)).all (· < index) ∧
                pathStart (front ++ part ++ back) ≤ index := by
            refine ⟨?_, cut.2⟩
            cases lastSlash with
            | none => exact cut.1
            | some slash =>
                have late : slash + (front.length + other.length) < index :=
                  of_decide_eq_true cut.1
                omega
          rw [if_pos cut'] at own
          omega

/-- Where a token lies in its link: in the path, and with no digit beside it. -/
structure Placed (url : List Char) (token : NumberToken) (front back : List Char) : Prop where
  split : url = front ++ token.digits ++ back
  start : token.start = front.length
  end_ : token.end_ = front.length + token.digits.length
  value : token.value = Nat.ofDigitChars 10 token.digits 0
  digits : Digits token.digits
  inside : pathStart url ≤ front.length
  before : front.length + token.digits.length ≤ numbersStop url
  ends : ∀ char ∈ (front.drop (pathStart url)).getLast?, char.isDigit = false
  begins : ∀ char ∈ (back.take (numbersStop url - (front.length + token.digits.length))).head?,
    char.isDigit = false

theorem pathStop_le_length (url : List Char) : pathStop url ≤ url.length := by
  have authority : authorityEnd url ≤ url.length := by
    unfold authorityEnd
    cases found : infixIdx? [':', '/', '/'] url with
    | none => exact Nat.zero_le _
    | some index => exact add_length_le_of_infixIdx? found
  have start : pathStart url ≤ url.length := by
    have within : (url.drop (authorityEnd url)).findIdx (· == '/') ≤ _ := List.findIdx_le_length
    rw [List.length_drop] at within
    unfold pathStart
    omega
  have within : (url.drop (pathStart url)).findIdx queryOrFragment ≤ _ := List.findIdx_le_length
  rw [List.length_drop] at within
  unfold pathStop
  omega

theorem exists_placed {url : List Char} {token : NumberToken}
    (found : token ∈ findNumberTokens url) : ∃ front back, Placed url token front back := by
  obtain ⟨run, listed, rfl⟩ := List.mem_map.mp found
  obtain ⟨left, right, split, at_, some_, all, ends, begins⟩ := exists_of_mem_runs listed
  have bound := (numbersStop_le_pathStop url).trans (pathStop_le_length url)
  have lengths := congrArg List.length split
  simp only [slice, List.length_drop, List.length_take, List.length_append,
    Nat.min_eq_left bound] at lengths
  have positive := List.length_pos_iff.mpr some_
  have start : (url.take (pathStart url)).length = pathStart url := by
    rw [List.length_take]
    omega
  have front : (url.take (pathStart url) ++ left).length = run.start := by
    rw [List.length_append, start, at_]
  have whole : url = url.take (pathStart url) ++ (left ++ run.items ++ right) ++
      url.drop (numbersStop url) := by
    have taken : url.take (pathStart url) =
        (url.take (numbersStop url)).take (pathStart url) := by
      rw [List.take_take, Nat.min_eq_left (by omega)]
    rw [← split, slice, taken, List.take_append_drop, List.take_append_drop]
  refine ⟨url.take (pathStart url) ++ left, right ++ url.drop (numbersStop url), ?_⟩
  exact
    { split := whole.trans (by simp only [tokenOf, List.append_assoc])
      start := front.symm
      end_ := by
        rw [front]
        rfl
      value := rfl
      digits := ⟨some_, all⟩
      inside := by
        rw [List.length_append, start]
        omega
      before := by
        rw [front, at_]
        dsimp only [tokenOf]
        omega
      ends := by
        rw [List.drop_left' start]
        exact ends
      begins := by
        have length : numbersStop url - ((url.take (pathStart url) ++ left).length +
            (tokenOf run).digits.length) = right.length := by
          rw [front, at_]
          dsimp only [tokenOf]
          omega
        rw [length, List.take_left]
        exact begins }

theorem Placed.tokens {url : List Char} {token : NumberToken}
    (placed : Placed url token front back) :
    ∃ (before : List NumberToken) (later : List (Run Char)),
      (∀ token ∈ before, token.start ≤ front.length ∧ token.end_ ≤ front.length) ∧
      ∀ {other}, Digits other → findNumberTokens (front ++ other ++ back) =
        before ++ tokenOf ⟨front.length, other⟩ ::
          later.map fun run => tokenOf (run.move (front.length + other.length)) := by
  obtain ⟨split, -, -, -, digits, inside, until_, ends, begins⟩ := placed
  subst split
  obtain ⟨further, stop⟩ := numbersStop_splice digits inside until_
  have start := fun {other} (digits' : Digits other) => pathStart_stable digits inside digits'
  rw [stop digits, Nat.add_sub_cancel_left] at begins
  generalize pathStart (front ++ token.digits ++ back) = start_ at inside ends start
  have length : start_ + (front.drop start_).length = front.length := by
    rw [List.length_drop]
    omega
  refine ⟨(runs Char.isDigit start_ (front.drop start_)).map tokenOf,
    runs Char.isDigit 0 (back.take further), ?_, fun {other} digits' => ?_⟩
  · intro earlier listed
    obtain ⟨run, found, rfl⟩ := List.mem_map.mp listed
    obtain ⟨left, right, split, at_, -⟩ := exists_of_mem_runs found
    have lengths := congrArg List.length split
    rw [List.length_append, List.length_append] at lengths
    dsimp only [tokenOf]
    omega
  · have sliced : slice (front ++ other ++ back) start_
        (front.length + other.length + further) =
          front.drop start_ ++ other ++ back.take further := by
      rw [slice, ← List.length_append, List.take_length_add_append, List.append_assoc,
        List.drop_append_of_le_length inside, List.append_assoc]
    have moved : runs Char.isDigit (front.length + other.length) (back.take further) =
        (runs Char.isDigit 0 (back.take further)).map
          (Run.move (front.length + other.length)) := by
      rw [← runs_move, Nat.zero_add]
    rw [findNumberTokens, start digits', stop digits', sliced,
      runs_splice ends begins digits'.some_ digits'.all, length, moved, List.map_append,
      List.map_cons, List.map_map]
    rfl

/-! ## The key of the series -/

/-- Further on in a longer link the loop adds the same. -/
theorem keyFrom_append (cursor : Nat) (later : List (Run Char)) :
    keyFrom (front ++ back) (front.length + cursor)
        (later.map fun run => tokenOf (run.move front.length)) =
      keyFrom back cursor (later.map tokenOf) := by
  induction later generalizing cursor with
  | nil => exact List.drop_length_add_append _
  | cons run rest ih =>
      have sliced : slice (front ++ back) (front.length + cursor) (run.start + front.length) =
          slice back cursor run.start := by
        rw [slice, Nat.add_comm run.start, List.take_length_add_append,
          List.drop_length_add_append]
        rfl
      have ended : (tokenOf (run.move front.length)).end_ =
          front.length + (tokenOf run).end_ := by
        dsimp only [tokenOf, Run.move]
        omega
      rw [List.map_cons, List.map_cons, keyFrom, keyFrom, ended, ih]
      exact congrArg (· ++ _) sliced

/-- What the loop adds before a position reads the link up to there. -/
theorem keyFrom_before (before : List NumberToken) {cursor : Nat} (within : cursor ≤ front.length)
    (early : ∀ token ∈ before, token.start ≤ front.length ∧ token.end_ ≤ front.length) :
    ∃ (added : List Char) (reached : Nat), reached ≤ front.length ∧
      ∀ back later, keyFrom (front ++ back) cursor (before ++ later) =
        added ++ keyFrom (front ++ back) reached later := by
  induction before generalizing cursor with
  | nil => exact ⟨[], cursor, within, fun _ _ => rfl⟩
  | cons token rest ih =>
      obtain ⟨start, end_⟩ := early token List.mem_cons_self
      obtain ⟨added, reached, inside, same⟩ := ih end_ fun other listed =>
        early other (List.mem_cons_of_mem _ listed)
      refine ⟨slice front cursor token.start ++ '#' :: added, reached, inside, ?_⟩
      intro back later
      have sliced : slice (front ++ back) cursor token.start = slice front cursor token.start := by
        rw [slice, List.take_append_of_le_length start, slice]
      rw [List.cons_append, keyFrom, sliced, same, List.append_assoc, List.cons_append]

/-- The key does not depend on the number. -/
theorem Placed.seriesKey {url : List Char} {token : NumberToken}
    (placed : Placed url token front back) (digits' : Digits other) :
    seriesKey (front ++ other ++ back) = seriesKey url := by
  obtain ⟨before, later, early, tokens⟩ := placed.tokens
  obtain ⟨added, reached, inside, same⟩ := keyFrom_before before (Nat.zero_le front.length) early
  have key {other : List Char} (digits : Digits other) :
      EpisodeSeries.seriesKey (front ++ other ++ back) =
        added ++ (front.drop reached ++ '#' :: keyFrom back 0 (later.map tokenOf)) := by
    have own : slice (front ++ (other ++ back)) reached front.length = front.drop reached := by
      rw [slice, List.take_left]
    have behind : keyFrom (front ++ (other ++ back)) (front.length + other.length)
        (later.map fun run => tokenOf (run.move (front.length + other.length))) =
          keyFrom back 0 (later.map tokenOf) := by
      have moved : keyFrom ((front ++ other) ++ back) ((front ++ other).length + 0) _ = _ :=
        keyFrom_append 0 later
      rwa [List.length_append, Nat.add_zero, List.append_assoc] at moved
    have many : ¬ (findNumberTokens (front ++ other ++ back)).length = 0 := by
      rw [tokens digits, List.length_append, List.length_cons]
      omega
    rw [EpisodeSeries.seriesKey, if_neg many, tokens digits, List.append_assoc, same, keyFrom]
    dsimp only [tokenOf]
    rw [own]
    exact congrArg (fun rest => added ++ (front.drop reached ++ '#' :: rest)) behind
  rw [placed.split, key digits', key placed.digits]

/-! ## The shift -/

theorem digits_padded (width number : Nat) : Digits (padded width number) :=
  ⟨padded_ne_nil width number, fun _ listed => isDigit_of_mem_padded listed⟩

theorem Placed.shiftToken {url : List Char} {token : NumberToken}
    (placed : Placed url token front back) (offset : Nat) :
    shiftToken url token offset =
      front ++ padded token.digits.length (token.value + offset) ++ back := by
  have whole : (max 0 ((token.value : ℤ) + (offset : ℤ))).toNat = token.value + offset := by
    omega
  rw [EpisodeSeries.shiftToken, whole, replaceToken, placed.start, placed.end_, placed.split,
    List.append_assoc front, List.take_left, ← List.append_assoc, ← List.length_append,
    List.drop_left]

/-- What a token says of its number. -/
def NumberToken.content (token : NumberToken) : Nat × List Char := (token.value, token.digits)

/-- A shifted link differs from the link in the one number only, it has the same numbers but
for that one, which has moved by the offset, and the same key; and each offset leads to a
link of its own. -/
theorem shiftToken_faithful {url : List Char} {token : NumberToken}
    (found : token ∈ findNumberTokens url) :
    (∀ offset : Nat, 1 ≤ offset →
      (∃ front digits back, url = front ++ token.digits ++ back ∧ front.length = token.start ∧
        shiftToken url token offset = front ++ digits ++ back ∧ Digits digits) ∧
      (∃ before shifted after after', findNumberTokens url = before ++ token :: after ∧
        findNumberTokens (shiftToken url token offset) = before ++ shifted :: after' ∧
        shifted.value = token.value + offset ∧
        after'.map NumberToken.content = after.map NumberToken.content) ∧
      seriesKey (shiftToken url token offset) = seriesKey url ∧
      shiftToken url token offset ≠ url) ∧
    (∀ first second : Nat, first ≠ second →
      shiftToken url token first ≠ shiftToken url token second) := by
  obtain ⟨front, back, placed⟩ := exists_placed found
  refine ⟨fun offset moves => ⟨?_, ?_, ?_, ?_⟩, ?_⟩
  · exact ⟨front, _, back, placed.split, placed.start.symm, placed.shiftToken offset,
      digits_padded _ _⟩
  · obtain ⟨before, later, -, tokens⟩ := placed.tokens
    have own : tokenOf ⟨front.length, token.digits⟩ = token := by
      obtain ⟨-, start, end_, value, -⟩ := placed
      cases token
      dsimp only at start end_ value
      rw [start, end_, value, tokenOf]
    have shifted := tokens (digits_padded token.digits.length (token.value + offset))
    have plain := tokens placed.digits
    rw [← placed.shiftToken offset] at shifted
    rw [← placed.split, own] at plain
    refine ⟨before, _, _, _, plain, shifted, ofDigitChars_padded _ _, ?_⟩
    rw [List.map_map, List.map_map]
    exact List.map_congr_left fun run _ => rfl
  · rw [placed.shiftToken]
    exact placed.seriesKey (digits_padded _ _)
  · intro same
    have digits : padded token.digits.length (token.value + offset) = token.digits := by
      have split := placed.split
      rw [placed.shiftToken, split] at same
      exact List.append_cancel_left (List.append_cancel_right same)
    have value := ofDigitChars_padded token.digits.length (token.value + offset)
    rw [digits, ← placed.value] at value
    omega
  · intro first second other same
    rw [placed.shiftToken, placed.shiftToken] at same
    have digits := List.append_cancel_left (List.append_cancel_right same)
    have value := padded_injective _ digits
    omega

/-- The ninth episode leads to the twelfth, which takes no more digits, and further to the
hundredth, which does. -/
theorem shiftToken_faithful_sample :
    shiftToken "http://h/2/ep09.mp4".toList ⟨9, ['0', '9'], 13, 15⟩ 3 =
        "http://h/2/ep12.mp4".toList ∧
      (findNumberTokens "http://h/2/ep100.mp4".toList).map NumberToken.content =
        [(2, ['2']), (100, ['1', '0', '0'])] ∧
      seriesKey (shiftToken "http://h/2/ep09.mp4".toList ⟨9, ['0', '9'], 13, 15⟩ 91) =
        seriesKey "http://h/2/ep09.mp4".toList := by
  have found : ⟨9, ['0', '9'], 13, 15⟩ ∈ findNumberTokens "http://h/2/ep09.mp4".toList := by
    decide +kernel
  have faithful := (shiftToken_faithful found).1 91 (by decide)
  exact ⟨by decide +kernel, by decide +kernel, faithful.2.2.1⟩

end OpenTogetherTube.EpisodeSeries
