import C64Stream.Network.FileListing

/-! Which lists of files are read exactly. -/

namespace C64Stream

section Members

variable (entry : ListedEntry) {members front behind : List EntryMember} {rest : Text}

/-- A member has a name in it that can be taken for a key. -/
def ListedEntry.showsKey (entry : ListedEntry) (key : Text) (entryMember : EntryMember) : Prop :=
  entryMember.key = key ∨ entryMember = .name ∧ entry.name = key

/-- No byte of a name has to be escaped, and none is a closing brace. -/
def ListedEntry.Plain (entry : ListedEntry) : Prop :=
  ∀ byte ∈ entry.name, 32 ≤ byte ∧ byte ≠ 34 ∧ byte ≠ 92 ∧ byte ≠ 125

/-- The members behind another one. -/
def ListedEntry.further (entry : ListedEntry) (members : List EntryMember) (rest : Text) : Text :=
  members.flatMap (fun entryMember => text ", " ++ entry.member entryMember) ++ rest

theorem intercalate_around {Part : Type} (print : Part → Text) (front : List Part) (part : Part)
    (behind : List Part) (rest : Text) :
    (text ", ").intercalate ((front ++ part :: behind).map print) ++ rest =
      front.flatMap (fun other => print other ++ text ", ") ++
        (print part ++ (behind.flatMap (fun other => text ", " ++ print other) ++ rest)) := by
  induction front with
  | nil =>
    induction behind generalizing part with
    | nil => simp [List.intercalate_singleton]
    | cons next behind ih =>
      have behindNext := ih next
      rw [List.nil_append, List.map_cons] at behindNext
      rw [List.nil_append, List.map_cons, List.map_cons, List.intercalate_cons_cons,
        List.append_assoc, List.append_assoc, behindNext]
      simp
  | cons first front ih =>
    have more : (front ++ part :: behind).map print ≠ [] := by simp
    rw [List.cons_append, List.map_cons, List.intercalate_cons_of_ne_nil more, List.append_assoc,
      List.append_assoc, ih, List.flatMap_cons]
    simp only [List.append_assoc]

theorem intercalate_members (entryMember : EntryMember) (members : List EntryMember) (rest : Text) :
    (text ", ").intercalate ((entryMember :: members).map entry.member) ++ rest =
      entry.member entryMember ++ entry.further members rest := by
  exact intercalate_around entry.member [] entryMember members rest

theorem member_starts (entryMember : EntryMember) (rest : Text) :
    entry.member entryMember ++ rest =
      quoted entryMember.key ++ (text ": " ++ (entry.value entryMember ++ rest)) := by
  simp [ListedEntry.member]

theorem further_cons (entryMember : EntryMember) (members : List EntryMember) (rest : Text) :
    entry.further (entryMember :: members) rest =
      text ", " ++ (entry.member entryMember ++ entry.further members rest) := by
  simp [ListedEntry.further]

theorem key_letters (entryMember : EntryMember) :
    entryMember.key.length = 4 ∧ 34 ∉ entryMember.key ∧ 0 ∉ entryMember.key ∧
      58 ∉ entryMember.key ∧ 44 ∉ entryMember.key := by
  cases entryMember <;> decide

theorem ne_key (wanted : EntryMember) {first : UInt8} (mark : first = 58 ∨ first = 44)
    (rest : Text) : first :: rest ≠ wanted.key := by
  obtain ⟨-, -, -, colon, comma⟩ := key_letters wanted
  rintro same
  rw [← same] at colon comma
  rcases mark with rfl | rfl
  · exact colon (List.mem_cons_self ..)
  · exact comma (List.mem_cons_self ..)

theorem strstr_quoted (wanted : EntryMember) {inner : Text} (absent : 34 ∉ inner)
    (solid : 0 ∉ inner) (other : inner ≠ wanted.key) (rest : Text) :
    strstr (quoted wanted.key) (34 :: (inner ++ 34 :: rest)) =
      strstr (quoted wanted.key) (34 :: rest) :=
  strstr_marked (by decide) (key_letters wanted).2.1 absent solid other

theorem escapeName_plain {entry : ListedEntry} (plain : entry.Plain) :
    escapeName entry.name = entry.name := by
  have each : ∀ byte ∈ entry.name, escapedByte byte = [byte] := by
    intro byte among
    obtain ⟨low, quote, backslash, -⟩ := plain byte among
    rw [escapedByte, if_neg (by simp [quote, backslash]), if_neg (UInt8.not_lt.mpr low)]
  rw [escapeName, List.flatMap_congr each, List.flatMap_singleton']

theorem decimal_solid (n : Nat) (byte : UInt8) (outside : byte < 48 ∨ 57 < byte) :
    byte ∉ decimal n := by
  intro among
  obtain ⟨low, high⟩ := decimal_digit among
  rw [UInt8.le_iff_toNat_le] at low high
  rw [UInt8.lt_iff_toNat_lt, UInt8.lt_iff_toNat_lt] at outside
  omega

theorem strstr_member (wanted : EntryMember) {entryMember : EntryMember}
    (plain : entryMember = .name → entry.Plain)
    (other : ¬ entry.showsKey wanted.key entryMember) (rest : Text) :
    strstr (quoted wanted.key) (entry.member entryMember ++ (text ", " ++ 34 :: rest)) =
      strstr (quoted wanted.key) (34 :: rest) := by
  obtain ⟨-, quotes, solid, -⟩ := key_letters entryMember
  have key : entryMember.key ≠ wanted.key := fun same => other (.inl same)
  have colon : text ": " ≠ wanted.key := ne_key wanted (.inl rfl) [32]
  have comma : text ", " ≠ wanted.key := ne_key wanted (.inr rfl) [32]
  -- A member with a string has its key, what stands between, the string, and what stands behind.
  have strings : ∀ value : Text, entry.value entryMember = quoted value → 34 ∉ value →
      0 ∉ value → value ≠ wanted.key →
      strstr (quoted wanted.key) (entry.member entryMember ++ (text ", " ++ 34 :: rest)) =
        strstr (quoted wanted.key) (34 :: rest) := by
    intro value shape absent solidValue differs
    rw [member_starts, shape]
    simp only [quoted, List.cons_append, List.append_assoc, List.nil_append]
    rw [← quoted, strstr_quoted wanted quotes solid key,
      strstr_quoted wanted (by decide) (by decide) colon,
      strstr_quoted wanted absent solidValue differs,
      strstr_quoted wanted (by decide) (by decide) comma]
  cases entryMember with
  | name =>
    have each := plain rfl
    refine strings entry.name (by rw [ListedEntry.value, escapeName_plain each]) ?_ ?_ ?_
    · exact fun among => (each 34 among).2.1 rfl
    · exact fun among => absurd (each 0 among).1 (by decide)
    · exact fun same => other (.inr ⟨rfl, same⟩)
  | type =>
    refine strings _ rfl ?_ ?_ ?_ <;> cases entry.isDirectory <;> cases wanted <;> decide
  | size =>
    -- The number stands between the key and the next quote.
    have between : text ": " ++ (decimal entry.size.toNat ++ (text ", " ++ 34 :: rest)) =
        (58 :: 32 :: (decimal entry.size.toNat ++ text ", ")) ++ 34 :: rest := by
      rw [show text ": " = [58, 32] by decide]
      simp
    have absent : ∀ byte : UInt8, byte < 32 ∨ byte = 34 →
        byte ∉ 58 :: 32 :: (decimal entry.size.toNat ++ text ", ") := by
      intro byte outside
      have digits := decimal_solid entry.size.toNat byte (by
        simp only [UInt8.lt_iff_toNat_lt] at outside ⊢
        rcases outside with low | rfl
        · left
          exact lt_trans low (by decide)
        · left
          decide)
      rw [show text ", " = [44, 32] by decide]
      simp only [List.mem_cons, List.mem_append, List.not_mem_nil, or_false, not_or]
      refine ⟨?_, ?_, digits, ?_, ?_⟩ <;> rintro rfl <;> revert outside <;> decide
    rw [member_starts]
    simp only [quoted, List.cons_append, List.append_assoc, List.nil_append]
    rw [← quoted, strstr_quoted wanted quotes solid key, ListedEntry.value, between,
      strstr_quoted wanted (absent 34 (.inr rfl)) (absent 0 (.inl (by decide)))
        (ne_key wanted (.inl rfl) _)]

theorem strstr_members (wanted : EntryMember) {front behind : List EntryMember}
    (plain : .name ∈ front → entry.Plain)
    (passed : ∀ entryMember ∈ front, ¬ entry.showsKey wanted.key entryMember)
    (entryMember : EntryMember) (rest : Text) :
    strstr (quoted wanted.key)
        ((text ", ").intercalate ((front ++ entryMember :: behind).map entry.member) ++ rest) =
      strstr (quoted wanted.key) (entry.member entryMember ++ entry.further behind rest) := by
  induction front with
  | nil => rw [List.nil_append, intercalate_members]
  | cons first front ih =>
    have behindFirst := ih (fun member => plain (List.mem_cons_of_mem _ member))
      fun other member => passed other (List.mem_cons_of_mem _ member)
    rw [List.cons_append, intercalate_members]
    -- The next member begins with a quote.
    obtain ⟨next, others, shape⟩ :=
      List.exists_cons_of_ne_nil (show front ++ entryMember :: behind ≠ [] by simp)
    rw [shape] at behindFirst ⊢
    rw [intercalate_members] at behindFirst
    rw [further_cons, ← behindFirst, member_starts entry next]
    exact strstr_member entry wanted (fun same => plain (same ▸ List.mem_cons_self ..))
      (passed first (List.mem_cons_self ..)) _

/-- An object of the answer behind its opening brace, with what comes after it. -/
def ListedEntry.body (entry : ListedEntry) (rest : Text) : Text :=
  (text ", ").intercalate (entry.order.map entry.member) ++ 125 :: rest

theorem order_cases :
    entry.order = [.name, .type, .size] ∨ entry.order = [.name, .size, .type] ∨
      entry.order = [.type, .name, .size] ∨ entry.order = [.type, .size, .name] ∨
      entry.order = [.size, .name, .type] ∨ entry.order = [.size, .type, .name] := by
  have member := List.mem_permutations'.mpr entry.permutes
  have six : [EntryMember.name, .type, .size].permutations' =
      [[.name, .type, .size], [.type, .name, .size], [.type, .size, .name], [.name, .size, .type],
        [.size, .name, .type], [.size, .type, .name]] := by decide
  rw [six] at member
  simp only [List.mem_cons, List.not_mem_nil, or_false] at member
  tauto

theorem strstr_body (wanted : EntryMember) {front behind : List EntryMember}
    {entryMember : EntryMember} (order : entry.order = front ++ entryMember :: behind)
    (plain : .name ∈ front → entry.Plain)
    (passed : ∀ other ∈ front, ¬ entry.showsKey wanted.key other) (rest : Text) :
    strstr (quoted wanted.key) (123 :: entry.body rest) =
      strstr (quoted wanted.key)
        (entry.member entryMember ++ entry.further behind (125 :: rest)) := by
  have brace : strstr (quoted wanted.key) (123 :: entry.body rest) =
      strstr (quoted wanted.key) (entry.body rest) := by
    have openingBrace : 34 ∉ ([123] : Text) ∧ 0 ∉ ([123] : Text) := by decide
    exact strstr_append openingBrace.1 openingBrace.2
  rw [brace, ListedEntry.body, order, strstr_members entry wanted plain passed]

end Members

section Fields

variable (entry : ListedEntry)

theorem escapeName_solid (name : Text) : 0 ∉ escapeName name := by
  intro among
  obtain ⟨byte, -, inside⟩ := List.mem_flatMap.mp among
  have all : ∀ byte : UInt8, 0 ∉ escapedByte byte := forall_byte (by decide +kernel)
  exact all byte inside

/-- What is left of the response behind the first quote of a name, with that quote. -/
def nameRest (name behind : Text) : Text :=
  (escapeName name ++ [34]).dropWhile (· != 34) ++ behind

theorem readName_eq (rest objEnd : Text) :
    ∃ front behind, entry.order = front ++ .name :: behind ∧
      readName (123 :: entry.body rest) objEnd =
        some (if (nameRest entry.name (entry.further behind (125 :: rest))).length ≤ objEnd.length
          then [] else copyField 256 ((escapeName entry.name).takeWhile (· != 34))) := by
  have among : EntryMember.name ∈ entry.order := entry.permutes.mem_iff.mpr (List.mem_cons_self ..)
  obtain ⟨front, behind, order, first⟩ := List.eq_append_cons_of_mem among
  refine ⟨front, behind, order, ?_⟩
  have passed : ∀ other ∈ front, ¬ entry.showsKey EntryMember.name.key other := by
    rintro other member (key | ⟨rfl, -⟩)
    · cases other
      · exact first member
      · exact absurd key (by decide)
      · exact absurd key (by decide)
    · exact first member
  have key := strstr_body entry .name order (fun member => absurd member first) passed rest
  rw [member_starts, show quoted EntryMember.name.key = 34 :: (text "name" ++ [34]) from rfl,
    strstr_here] at key
  generalize entry.further behind (125 :: rest) = more at key ⊢
  have value : strchr 34 (text ": " ++ (entry.value .name ++ more)) =
      some (some (entry.value .name ++ more)) := by
    rw [strchr_append (by decide) (by decide), ListedEntry.value, quoted, List.cons_append,
      strchr_here]
  have shape : (entry.value .name ++ more).tail = escapeName entry.name ++ [34] ++ more := rfl
  have ends : strchr 34 (escapeName entry.name ++ [34] ++ more) =
      some (some (nameRest entry.name more)) := by
    refine strchr_takeWhile (by simp) ?_
    simp [escapeName_solid]
  have split : escapeName entry.name ++ [34] ++ more =
      (escapeName entry.name).takeWhile (· != 34) ++ nameRest entry.name more := by
    have front : (escapeName entry.name ++ [34]).takeWhile (· != 34) =
        (escapeName entry.name).takeWhile (· != 34) := by
      rw [List.takeWhile_append]
      split
      · rename_i all
        rw [(List.takeWhile_prefix _).eq_of_length all]
        simp
      · rfl
    rw [nameRest, ← List.append_assoc, ← front, List.takeWhile_append_dropWhile]
  unfold readName
  rw [show text "\"name\"" = 34 :: (text "name" ++ [34]) from rfl, key]
  have drop : (34 :: (text "name" ++ [34]) ++ (text ": " ++ (entry.value .name ++ more))).drop 6 =
      text ": " ++ (entry.value .name ++ more) := rfl
  simp only [Option.bind_eq_bind, Option.bind_some, Option.pure_def, drop, value, shape, ends]
  -- What is left behind the name is shorter than what is left before it.
  have shorter : (nameRest entry.name more).length ≤ (entry.value .name ++ more).length := by
    have sizes := congrArg List.length (shape.trans split)
    simp only [List.length_tail, List.length_append] at sizes ⊢
    omega
  have shorterKey : (entry.value .name ++ more).length ≤
      (34 :: (text "name" ++ [34]) ++ (text ": " ++ (entry.value .name ++ more))).length := by
    simp only [List.length_append, List.length_cons]
    omega
  by_cases inside : (nameRest entry.name more).length ≤ objEnd.length
  · rw [if_pos inside]
    split_ifs <;> rfl
  · rw [if_neg inside, if_neg inside, if_neg (by omega), if_neg (by omega), split,
      List.length_append, Nat.add_sub_cancel, List.take_left]

theorem member_solid {byte : UInt8} (outside : byte = 125 ∨ byte = 0)
    (absent : byte ∉ escapeName entry.name) (entryMember : EntryMember) :
    byte ∉ entry.member entryMember := by
  have key : byte ∉ quoted entryMember.key := by
    rcases outside with rfl | rfl <;> cases entryMember <;> decide
  have value : byte ∉ entry.value entryMember := by
    cases entryMember with
    | name =>
      rw [ListedEntry.value, quoted]
      simp only [List.mem_cons, List.mem_append, List.not_mem_nil, or_false, not_or]
      refine ⟨?_, absent, ?_⟩ <;> rcases outside with rfl | rfl <;> decide
    | type =>
      rw [ListedEntry.value]
      rcases outside with rfl | rfl <;> cases entry.isDirectory <;> decide
    | size =>
      rw [ListedEntry.value]
      refine decimal_solid _ _ ?_
      rcases outside with rfl | rfl <;> decide
  have colon : byte ∉ text ": " := by
    rcases outside with rfl | rfl <;> decide
  simp only [ListedEntry.member, List.mem_append, not_or]
  exact ⟨⟨key, colon⟩, value⟩

theorem objectEnd_plain {entry : ListedEntry} (plain : entry.Plain) (rest : Text) :
    strchr 125 (123 :: entry.body rest) = some (some (125 :: rest)) := by
  have solid : ∀ byte : UInt8, byte = 125 ∨ byte = 0 →
      byte ∉ 123 :: (text ", ").intercalate (entry.order.map entry.member) := by
    intro byte outside
    have comma : byte ∉ text ", " := by rcases outside with rfl | rfl <;> decide
    have brace : byte ≠ 123 := by rcases outside with rfl | rfl <;> decide
    have absent : byte ∉ escapeName entry.name := by
      rw [escapeName_plain plain]
      intro among
      obtain ⟨low, -, -, other⟩ := plain byte among
      rcases outside with rfl | rfl
      · exact other rfl
      · exact absurd low (by decide)
    simp only [List.mem_cons, not_or, brace, not_false_eq_true, true_and]
    obtain ⟨first, others, order⟩ := List.exists_cons_of_ne_nil
      (show entry.order ≠ [] by rcases order_cases entry with h | h | h | h | h | h <;> simp [h])
    have members := intercalate_members entry first others []
    rw [List.append_nil, ← order] at members
    rw [members, ListedEntry.further]
    simp only [List.append_nil, List.mem_append, List.mem_flatMap, not_or, not_exists, not_and]
    exact ⟨member_solid entry outside absent first, fun other _ => ⟨comma,
      member_solid entry outside absent other⟩⟩
  rw [ListedEntry.body, ← List.cons_append,
    strchr_append (solid 125 (.inl rfl)) (solid 0 (.inr rfl)), strchr_here]

theorem readName_plain {entry : ListedEntry} (plain : entry.Plain) (rest : Text) :
    readName (123 :: entry.body rest) (125 :: rest) = some (copyField 256 entry.name) := by
  obtain ⟨front, behind, -, read⟩ := readName_eq entry rest (125 :: rest)
  have whole : ∀ byte ∈ entry.name, (byte != 34) = true := fun byte among => by
    simpa using (plain byte among).2.1
  have behindName : nameRest entry.name (entry.further behind (125 :: rest)) =
      34 :: entry.further behind (125 :: rest) := by
    rw [nameRest, escapeName_plain plain, List.dropWhile_append_of_pos whole]
    rfl
  have longer : ¬ (34 :: entry.further behind (125 :: rest)).length ≤ (125 :: rest).length := by
    rw [ListedEntry.further]
    simp only [List.length_cons, List.length_append]
    omega
  rw [read, behindName, if_neg longer, escapeName_plain plain, List.takeWhile_eq_self_iff.mpr whole]

/-- The name comes before another member. -/
def ListedEntry.nameBefore (entry : ListedEntry) (entryMember : EntryMember) : Bool :=
  (entry.order.takeWhile (· ≠ entryMember)).contains .name

/-- The key of a type is found in the name of an entry that is called so. -/
def ListedEntry.mistakesType (entry : ListedEntry) : Bool :=
  entry.name == text "type" && entry.nameBefore .type

/-- The key of a size is found in the name of an entry that is called so, with the type behind
it. -/
def ListedEntry.mistakesSize (entry : ListedEntry) : Bool :=
  entry.name == text "size" && entry.order == [.name, .type, .size]

theorem strstr_found (wanted : EntryMember) {front behind : List EntryMember}
    (order : entry.order = front ++ wanted :: behind) (plain : .name ∈ front → entry.Plain)
    (passed : ∀ other ∈ front, ¬ entry.showsKey wanted.key other) (rest : Text) :
    strstr (quoted wanted.key) (123 :: entry.body rest) =
      some (some (quoted wanted.key ++ (text ": " ++ (entry.value wanted ++
        entry.further behind (125 :: rest))))) := by
  rw [strstr_body entry wanted order plain passed, member_starts, quoted, strstr_here]

theorem strstr_mistaken {entry : ListedEntry} (wanted : EntryMember) (plain : entry.Plain)
    {front behind : List EntryMember} (order : entry.order = front ++ .name :: behind)
    (passed : ∀ other ∈ front, ¬ entry.showsKey wanted.key other) (named : wanted ≠ .name)
    (mistaken : entry.name = wanted.key) (rest : Text) :
    strstr (quoted wanted.key) (123 :: entry.body rest) =
      some (some (quoted wanted.key ++ entry.further behind (125 :: rest))) := by
  have key : EntryMember.name.key ≠ wanted.key := by
    cases wanted <;> first | exact absurd rfl named | decide
  rw [strstr_body entry wanted order (fun _ => plain) passed, member_starts, ListedEntry.value,
    escapeName_plain plain, mistaken]
  have between : quoted EntryMember.name.key ++ (text ": " ++ (quoted wanted.key ++
      entry.further behind (125 :: rest))) = 34 :: (EntryMember.name.key ++ 34 :: (text ": " ++
        34 :: (wanted.key ++ [34] ++ entry.further behind (125 :: rest)))) := by
    simp [quoted]
  have colon : text ": " ≠ wanted.key := ne_key wanted (.inl rfl) [32]
  rw [between, strstr_quoted wanted (by decide) (by decide) key,
    strstr_quoted wanted (by decide) (by decide) colon, ← List.cons_append, quoted, strstr_here]

theorem order_split (wanted : EntryMember) :
    ∃ front behind, entry.order = front ++ wanted :: behind ∧ wanted ∉ front ∧
      entry.nameBefore wanted = front.contains .name := by
  have among : wanted ∈ entry.order := entry.permutes.mem_iff.mpr (by cases wanted <;> decide)
  obtain ⟨front, behind, order, first⟩ := List.eq_append_cons_of_mem among
  refine ⟨front, behind, order, first, ?_⟩
  have others : ∀ other ∈ front, decide (other ≠ wanted) = true := by
    intro other member
    rw [decide_eq_true_iff]
    rintro rfl
    exact first member
  rw [ListedEntry.nameBefore, order, List.takeWhile_append_of_pos others,
    List.takeWhile_cons_of_neg (by simp), List.append_nil]

theorem strstr_plain {entry : ListedEntry} (plain : entry.Plain) (wanted : EntryMember)
    (named : wanted ≠ .name) (right : ¬ (entry.name = wanted.key ∧ entry.nameBefore wanted = true))
    (rest : Text) :
    ∃ behind, strstr (quoted wanted.key) (123 :: entry.body rest) =
      some (some (quoted wanted.key ++ (text ": " ++ (entry.value wanted ++
        entry.further behind (125 :: rest))))) := by
  obtain ⟨front, behind, order, first, before⟩ := order_split entry wanted
  refine ⟨behind, strstr_found entry wanted order (fun _ => plain) ?_ rest⟩
  rintro other member (key | ⟨rfl, same⟩)
  · have equal : other = wanted := by
      revert key
      cases other <;> cases wanted <;> decide
    exact first (equal ▸ member)
  · refine right ⟨same, ?_⟩
    rw [before]
    simpa using member

theorem strstr_mistaken_plain {entry : ListedEntry} (plain : entry.Plain) (wanted : EntryMember)
    (named : wanted ≠ .name) (mistaken : entry.name = wanted.key ∧ entry.nameBefore wanted = true)
    (rest : Text) :
    ∃ front next others, entry.order = front ++ .name :: next :: others ∧ next ≠ .name ∧
      strstr (quoted wanted.key) (123 :: entry.body rest) =
        some (some (quoted wanted.key ++ (text ", " ++ (entry.member next ++
          entry.further others (125 :: rest))))) := by
  obtain ⟨before, behind, order, first, contains⟩ := order_split entry wanted
  have member : EntryMember.name ∈ before := by
    rw [mistaken.2] at contains
    simpa using contains.symm
  obtain ⟨front, between, shape, -⟩ := List.eq_append_cons_of_mem member
  have whole : entry.order = front ++ .name :: (between ++ wanted :: behind) := by
    rw [order, shape]
    simp
  -- No member comes twice.
  have nodup : entry.order.Nodup := entry.permutes.nodup_iff.mpr (by decide)
  rw [whole, List.nodup_append, List.nodup_cons] at nodup
  obtain ⟨-, ⟨absent, -⟩, apart⟩ := nodup
  have passed : ∀ other ∈ front, ¬ entry.showsKey wanted.key other := by
    rintro other among (key | ⟨rfl, -⟩)
    · have equal : other = wanted := by
        revert key
        cases other <;> cases wanted <;> decide
      exact apart other among wanted (by simp) equal
    · exact apart _ among _ (List.mem_cons_self ..) rfl
  have found := strstr_mistaken wanted plain whole passed named mistaken.1 rest
  obtain ⟨next, others, shape⟩ :=
    List.exists_cons_of_ne_nil (show between ++ wanted :: behind ≠ [] by simp)
  rw [shape] at whole found absent
  refine ⟨front, next, others, whole, ?_, by rw [found, further_cons]⟩
  rintro rfl
  exact absent (List.mem_cons_self ..)

theorem further_length (behind : List EntryMember) (rest : Text) :
    (125 :: rest).length ≤ (entry.further behind (125 :: rest)).length := by
  rw [ListedEntry.further, List.length_append]
  omega

theorem readIsDirectory_plain {entry : ListedEntry} (plain : entry.Plain) (rest : Text) :
    readIsDirectory (123 :: entry.body rest) (125 :: rest) =
      some (entry.isDirectory && !entry.mistakesType) := by
  have key : text "\"type\"" = quoted EntryMember.type.key := rfl
  unfold readIsDirectory
  rw [key]
  by_cases right : entry.name = EntryMember.type.key ∧ entry.nameBefore .type = true
  · -- The next quote begins the key of another member, which is no directory.
    obtain ⟨front, next, others, -, other, found⟩ :=
      strstr_mistaken_plain plain .type (by decide) right rest
    have longer := further_length entry others rest
    rw [member_starts] at found
    generalize text ": " ++ (entry.value next ++ entry.further others (125 :: rest)) = more at found
    have mistakes : entry.mistakesType = true := by
      rw [ListedEntry.mistakesType, right.2, Bool.and_true]
      exact beq_iff_eq.mpr right.1
    have value : strchr 34 (text ", " ++ (quoted next.key ++ more)) =
        some (some (quoted next.key ++ more)) := by
      rw [strchr_append (by decide) (by decide), quoted, List.cons_append, strchr_here]
    have drop : (quoted EntryMember.type.key ++ (text ", " ++ (quoted next.key ++ more))).drop 6 =
        text ", " ++ (quoted next.key ++ more) := rfl
    have differs : decide (text "directory" <+: (quoted next.key ++ more).tail) = false := by
      rw [quoted, List.cons_append, List.tail_cons]
      cases next with
      | name => exact absurd rfl other
      | type =>
        exact decide_eq_false fun starts =>
          absurd (List.cons_prefix_cons.mp starts).1 (by decide)
      | size =>
        exact decide_eq_false fun starts =>
          absurd (List.cons_prefix_cons.mp starts).1 (by decide)
    rw [found]
    simp only [Option.bind_eq_bind, Option.bind_some, Option.pure_def, drop, value, differs,
      mistakes, Bool.not_true, Bool.and_false]
    split_ifs <;> rfl
  · obtain ⟨behind, found⟩ := strstr_plain plain .type (by decide) right rest
    have longer := further_length entry behind rest
    generalize entry.further behind (125 :: rest) = more at found longer
    have mistakes : entry.mistakesType = false := by
      rw [ListedEntry.mistakesType, Bool.and_eq_false_iff, beq_eq_false_iff_ne]
      by_contra both
      push Not at both
      exact right ⟨both.1, by simpa using both.2⟩
    have value : strchr 34 (text ": " ++ (entry.value .type ++ more)) =
        some (some (entry.value .type ++ more)) := by
      rw [strchr_append (by decide) (by decide), ListedEntry.value, quoted, List.cons_append,
        strchr_here]
    have drop : (quoted EntryMember.type.key ++ (text ": " ++ (entry.value .type ++ more))).drop 6 =
        text ": " ++ (entry.value .type ++ more) := rfl
    rw [found]
    simp only [Option.bind_eq_bind, Option.bind_some, Option.pure_def, drop, value]
    have shorter : ¬ (entry.value .type ++ more).length ≤ (125 :: rest).length := by
      simp only [ListedEntry.value, quoted, List.length_append, List.length_cons] at longer ⊢
      omega
    have shorterKey : ¬ (quoted EntryMember.type.key ++
        (text ": " ++ (entry.value .type ++ more))).length ≤ (125 :: rest).length := by
      rw [List.length_append, List.length_append]
      omega
    rw [if_neg shorterKey, if_neg shorter, mistakes, Bool.not_false, Bool.and_true]
    congr 1
    rw [ListedEntry.value, quoted, List.cons_append, List.tail_cons]
    cases entry.isDirectory with
    | true => exact decide_eq_true ⟨[34] ++ more, by simp⟩
    | false =>
      exact decide_eq_false fun starts =>
        absurd (List.cons_prefix_cons.mp starts).1 (by decide)

theorem leadingNumber_append (number : Nat) (digits : Text) {stop : UInt8}
    (outside : ¬ (48 ≤ stop ∧ stop ≤ 57)) (rest : Text) :
    leadingNumber number (digits ++ stop :: rest) = leadingNumber number digits := by
  induction digits generalizing number with
  | nil => simp only [List.nil_append, leadingNumber, if_neg outside]
  | cons digit digits ih =>
    rw [List.cons_append, leadingNumber, leadingNumber]
    split
    · exact ih _
    · rfl

theorem strtoul_between {n : Nat} (small : n < 2 ^ 64) {stop : UInt8}
    (outside : ¬ (48 ≤ stop ∧ stop ≤ 57)) (rest : Text) :
    strtoul (32 :: (decimal n ++ stop :: rest)) = n := by
  have alone := strtoul_decimal small
  have nonempty : decimal n ≠ [] := by simp [decimal, Nat.toDigits_ne_nil]
  obtain ⟨first, digits, shape⟩ := List.exists_cons_of_ne_nil nonempty
  have among : first ∈ decimal n := by simp [shape]
  obtain ⟨low, -⟩ := decimal_digit among
  have solid := digit_not_space low
  have plus : first ≠ 43 := by rintro rfl; simp at low
  have minus : first ≠ 45 := by rintro rfl; simp at low
  have reads := leadingNumber_append 0 (first :: digits) outside rest
  -- The space is skipped, and the first digit is no sign.
  unfold strtoul at alone ⊢
  rw [shape] at alone ⊢
  rw [List.dropWhile_cons_of_neg (by simp [solid])] at alone
  rw [List.dropWhile_cons_of_pos (by decide), List.cons_append,
    List.dropWhile_cons_of_neg (by simp [solid])]
  rw [List.cons_append] at reads
  dsimp only at alone ⊢
  split
  · rename_i same; exact absurd (List.cons.inj same).1 plus
  · rename_i same; exact absurd (List.cons.inj same).1 minus
  · rw [reads]
    split at alone
    · rename_i same; exact absurd (List.cons.inj same).1 plus
    · rename_i same; exact absurd (List.cons.inj same).1 minus
    · exact alone

theorem readNumber (size : UInt32) (others : List EntryMember) (rest : Text) :
    UInt32.ofNat (strtoul (32 :: (decimal size.toNat ++ entry.further others (125 :: rest)))) =
      size := by
  have small : size.toNat < 2 ^ 64 := lt_trans size.toNat_lt (by decide)
  cases others with
  | nil =>
    rw [ListedEntry.further, List.flatMap_nil, List.nil_append, strtoul_between small (by decide),
      UInt32.ofNat_toNat]
  | cons next others =>
    rw [further_cons, show text ", " = 44 :: [32] from rfl, List.cons_append,
      strtoul_between small (by decide), UInt32.ofNat_toNat]

theorem readSize_plain {entry : ListedEntry} (plain : entry.Plain) (rest : Text) :
    readSize (123 :: entry.body rest) (125 :: rest) =
      some (if entry.mistakesSize then 0 else entry.size) := by
  have key : text "\"size\"" = quoted EntryMember.size.key := rfl
  unfold readSize
  rw [key]
  by_cases right : entry.name = EntryMember.size.key ∧ entry.nameBefore .size = true
  · obtain ⟨front, next, others, order, other, found⟩ :=
      strstr_mistaken_plain plain .size (by decide) right rest
    have longer := further_length entry others rest
    have pair : [.name, next] <:+: entry.order := ⟨front, others, by simp [order]⟩
    have before := right.2
    rw [ListedEntry.nameBefore] at before
    rw [member_starts] at found
    generalize behind : entry.further others (125 :: rest) = more at found longer
    have keySize : ∀ wanted : EntryMember, (quoted wanted.key).length = 6 := by
      intro wanted
      cases wanted <;> rfl
    have drop : ∀ left : Text, (quoted EntryMember.size.key ++ left).drop 6 = left := fun _ => rfl
    rw [found]
    simp only [Option.bind_eq_bind, Option.bind_some, Option.pure_def, drop]
    rw [if_neg (by simp only [List.length_append, keySize]; omega)]
    cases next with
    | name => exact absurd rfl other
    | size =>
      -- The next colon is that of the size itself.
      have mistakes : entry.mistakesSize = false := by
        rw [ListedEntry.mistakesSize, Bool.and_eq_false_iff]
        refine .inr (beq_eq_false_iff_ne.mpr fun same => ?_)
        rw [same] at pair
        exact absurd pair (by decide)
      have value : strchr 58 (text ", " ++ (quoted EntryMember.size.key ++ (text ": " ++
          (entry.value .size ++ more)))) =
          some (some (58 :: 32 :: (decimal entry.size.toNat ++ more))) := rfl
      rw [value]
      simp only [Option.bind_some, mistakes, List.tail_cons]
      rw [← behind, readNumber, behind, if_neg (by
        simp only [List.length_cons, List.length_append] at longer ⊢
        omega)]
      rfl
    | type =>
      -- The next colon is that of the type, behind which there is no number.
      have mistakes : entry.mistakesSize = true := by
        have named : (entry.name == text "size") = true := beq_iff_eq.mpr right.1
        rw [ListedEntry.mistakesSize, named, Bool.true_and]
        rcases order_cases entry with h | h | h | h | h | h <;> rw [h] at pair before ⊢ <;>
          revert pair before <;> decide
      have value : strchr 58 (text ", " ++ (quoted EntryMember.type.key ++ (text ": " ++
          (entry.value .type ++ more)))) =
          some (some (text ": " ++ (entry.value .type ++ more))) := rfl
      rw [value]
      simp only [Option.bind_some, mistakes, if_true]
      split_ifs <;> rfl
  · obtain ⟨behind, found⟩ := strstr_plain plain .size (by decide) right rest
    have longer := further_length entry behind rest
    have mistakes : entry.mistakesSize = false := by
      rw [ListedEntry.mistakesSize, Bool.and_eq_false_iff, beq_eq_false_iff_ne,
        beq_eq_false_iff_ne]
      by_contra both
      push Not at both
      refine right ⟨both.1, ?_⟩
      rw [ListedEntry.nameBefore, both.2]
      rfl
    have value : strchr 58 (text ": " ++ (entry.value .size ++
        entry.further behind (125 :: rest))) =
      some (some (58 :: 32 :: (decimal entry.size.toNat ++
        entry.further behind (125 :: rest)))) := strchr_here _ _
    have drop : (quoted EntryMember.size.key ++ (text ": " ++ (entry.value .size ++
        entry.further behind (125 :: rest)))).drop 6 =
      text ": " ++ (entry.value .size ++ entry.further behind (125 :: rest)) := rfl
    rw [found]
    simp only [Option.bind_eq_bind, Option.bind_some, Option.pure_def, drop, value, mistakes,
      List.tail_cons, readNumber]
    have shorter : ¬ (58 :: 32 :: (decimal entry.size.toNat ++
        entry.further behind (125 :: rest))).length ≤ (125 :: rest).length := by
      simp only [List.length_append, List.length_cons] at longer ⊢
      omega
    have shorterKey : ¬ (quoted EntryMember.size.key ++ (text ": " ++ (entry.value .size ++
        entry.further behind (125 :: rest)))).length ≤ (125 :: rest).length := by
      have keySize : (quoted EntryMember.size.key).length = 6 := rfl
      simp only [List.length_append, keySize]
      omega
    rw [if_neg shorterKey, if_neg shorter]
    rfl

end Fields

section Names

variable (entry : ListedEntry)

theorem backslashes_ne (count : Nat) (name : Text) :
    List.replicate (count + 1) 92 ++ (escapeName name).takeWhile (· != 34) ≠ name := by
  -- Each backslash of the name gives two, so there is always one too many.
  induction name generalizing count with
  | nil => simp
  | cons byte name ih =>
    intro same
    rw [List.replicate_succ, List.cons_append] at same
    obtain ⟨rfl, same⟩ := List.cons.inj same
    have escape : escapeName (92 :: name) = 92 :: 92 :: escapeName name := rfl
    rw [escape, List.takeWhile_cons_of_pos (by decide),
      List.takeWhile_cons_of_pos (by decide)] at same
    refine ih (count + 1) ?_
    rw [List.replicate_succ', List.replicate_succ', List.append_assoc, List.append_assoc]
    exact same

theorem unescaped_of_same {name : Text} (same : (escapeName name).takeWhile (· != 34) = name) :
    ∀ byte ∈ name, 32 ≤ byte ∧ byte ≠ 34 ∧ byte ≠ 92 := by
  induction name with
  | nil => simp
  | cons byte name ih =>
    have escape : escapeName (byte :: name) = escapedByte byte ++ escapeName name := rfl
    rw [escape] at same
    by_cases marked : byte = 34 ∨ byte = 92
    · rw [escapedByte, if_pos marked, List.cons_append,
        List.takeWhile_cons_of_pos (by decide)] at same
      obtain ⟨rfl, same⟩ := List.cons.inj same
      rw [List.cons_append, List.nil_append, List.takeWhile_cons_of_pos (by decide)] at same
      exact absurd same (backslashes_ne 0 name)
    · by_cases low : byte < 32
      · -- A control character is not a backslash.
        rw [escapedByte, if_neg marked, if_pos low, show text "\\u00" = 92 :: text "u00" from rfl,
          List.cons_append, List.cons_append, List.takeWhile_cons_of_pos (by decide)] at same
        obtain ⟨rfl, -⟩ := List.cons.inj same
        exact absurd low (by decide)
      · rw [not_or] at marked
        rw [escapedByte, if_neg (by simp [marked]), if_neg low, List.cons_append, List.nil_append,
          List.takeWhile_cons_of_pos (by simpa using marked.1)] at same
        intro other member
        rcases List.mem_cons.mp member with rfl | member
        · exact ⟨UInt8.not_lt.mp low, marked.1, marked.2⟩
        · exact ih (List.cons.inj same).2 other member

theorem readFileEntry_escaped (short : entry.name.length < 255) (escaped : ¬ entry.Plain)
    {rest objEnd : Text} (ends : strchr 125 (123 :: entry.body rest) = some (some objEnd))
    {read : C64FileEntry} (reads : readFileEntry (123 :: entry.body rest) objEnd = some read) :
    read.name ≠ copyField 256 entry.name := by
  obtain ⟨front, behind, order, name⟩ := readName_eq entry rest objEnd
  have fits : copyField 256 entry.name = entry.name := List.take_of_length_le (by omega)
  have given : some read.name = readName (123 :: entry.body rest) objEnd := by
    simp only [readFileEntry, Option.bind_eq_bind, Option.bind_eq_some_iff, Option.pure_def,
      Option.some.injEq] at reads
    obtain ⟨_, same, _, _, _, _, rfl⟩ := reads
    exact same.symm
  rw [name] at given
  rw [fits, Option.some.inj given]
  split
  · -- A name without bytes is plain.
    intro empty
    refine escaped fun byte among => ?_
    rw [← empty] at among
    cases among
  · rename_i inside
    intro same
    have length := congrArg List.length same
    rw [copyField, List.length_take] at length
    rw [copyField, List.take_of_length_le (by omega)] at same
    -- Only a closing brace is left, at which the object is taken to end.
    have unescaped := unescaped_of_same same
    have raw : escapeName entry.name = entry.name := by
      have each : ∀ byte ∈ entry.name, escapedByte byte = [byte] := by
        intro byte among
        obtain ⟨low, quote, backslash⟩ := unescaped byte among
        rw [escapedByte, if_neg (by simp [quote, backslash]), if_neg (UInt8.not_lt.mpr low)]
      rw [escapeName, List.flatMap_congr each, List.flatMap_singleton']
    have brace : 125 ∈ entry.name := by
      by_contra absent
      refine escaped fun byte among => ?_
      obtain ⟨low, quote, backslash⟩ := unescaped byte among
      exact ⟨low, quote, backslash, fun equal => absent (equal ▸ among)⟩
    have split := intercalate_around entry.member front .name behind (125 :: rest)
    have whole : 123 :: entry.body rest =
        (123 :: (front.flatMap (fun other => entry.member other ++ text ", ") ++
          (quoted EntryMember.name.key ++ text ": " ++ [34])) ++ entry.name) ++
          34 :: entry.further behind (125 :: rest) := by
      rw [ListedEntry.body, order, split, member_starts, ListedEntry.value, raw]
      simp [quoted, ListedEntry.further]
    have solid : 0 ∉ 123 :: (front.flatMap (fun other => entry.member other ++ text ", ") ++
        (quoted EntryMember.name.key ++ text ": " ++ [34])) ++ entry.name := by
      simp only [List.mem_append, List.mem_cons, List.mem_flatMap, not_or, not_exists, not_and]
      refine ⟨⟨by decide, fun other _ => ⟨member_solid entry (.inr rfl) (escapeName_solid _) other,
        by decide⟩, ⟨by decide, by decide⟩, by decide, by simp⟩, fun among => ?_⟩
      exact absurd (unescaped 0 among).1 (by decide)
    have plainRest : nameRest entry.name (entry.further behind (125 :: rest)) =
        34 :: entry.further behind (125 :: rest) := by
      rw [nameRest, raw, List.dropWhile_append_of_pos fun byte among => by
        simpa using (unescaped byte among).2.1]
      rfl
    rw [whole, strchr_takeWhile (List.mem_append_right _ brace) solid] at ends
    obtain rfl := Option.some.inj (Option.some.inj ends)
    rw [plainRest, List.length_append] at inside
    omega

end Names

section Lists

variable {entry : ListedEntry} {between : Text}

/-- What an entry is read as. -/
def ListedEntry.readAs (entry : ListedEntry) : C64FileEntry :=
  ⟨copyField 256 entry.name, entry.isDirectory && !entry.mistakesType,
    if entry.mistakesSize then 0 else entry.size⟩

/-- The objects behind another one, and the end of the answer. -/
def moreObjects (entries : List ListedEntry) : Text :=
  entries.flatMap (fun entry => text ", " ++ entry.object) ++ text "]\x7d"

/-- The array of the answer behind its opening bracket. -/
def arrayText (entries : List ListedEntry) : Text :=
  (text ", ").intercalate (entries.map ListedEntry.object) ++ text "]\x7d"

theorem readFileEntry_plain (plain : entry.Plain) (rest : Text) :
    readFileEntry (123 :: entry.body rest) (125 :: rest) = some entry.readAs := by
  rw [readFileEntry, readName_plain plain, readIsDirectory_plain plain, readSize_plain plain]
  rfl

theorem readFileEntries_next (count : Nat) (entry : ListedEntry)
    (comma : between = [] ∨ between = text ", ") (rest : Text) :
    readFileEntries (count + 1) (between ++ (entry.object ++ rest)) = do
      match ← strchr 125 (123 :: entry.body rest) with
      | none => return []
      | some objEnd =>
        let read ← readFileEntry (123 :: entry.body rest) objEnd
        let more ← readFileEntries count objEnd.tail
        return read :: more := by
  have shape : entry.object ++ rest = 123 :: entry.body rest := by
    simp [ListedEntry.object, ListedEntry.body]
  have going : ¬ (between ++ 123 :: entry.body rest = [] ∨
      (between ++ 123 :: entry.body rest).head? = some 93) := by
    rcases comma with rfl | rfl
    · simp
    · simp [text]
      decide
  have found : strchr 123 (between ++ 123 :: entry.body rest) =
      some (some (123 :: entry.body rest)) := by
    have absent : 123 ∉ between ∧ 0 ∉ between := by
      rcases comma with rfl | rfl <;> decide
    rw [strchr_append absent.1 absent.2, strchr_here]
  rw [shape, readFileEntries, if_neg going, found]
  rfl

theorem readFileEntries_plain (count : Nat) (plain : entry.Plain)
    (comma : between = [] ∨ between = text ", ") (rest : Text) :
    readFileEntries (count + 1) (between ++ (entry.object ++ rest)) =
      (readFileEntries count rest).map (entry.readAs :: ·) := by
  rw [readFileEntries_next count entry comma, objectEnd_plain plain]
  simp only [Option.bind_eq_bind, Option.bind_some, readFileEntry_plain plain, List.tail_cons,
    Option.pure_def]
  cases readFileEntries count rest <;> rfl

theorem readFileEntries_all (count : Nat) {entries : List ListedEntry}
    (plain : ∀ entry ∈ entries, entry.Plain) :
    readFileEntries count (moreObjects entries) =
      some ((entries.take count).map ListedEntry.readAs) := by
  induction entries generalizing count with
  | nil =>
    cases count with
    | zero => rfl
    | succ count =>
      have stops : moreObjects [] = [] ∨ (moreObjects []).head? = some 93 := .inr rfl
      rw [readFileEntries, if_pos stops]
      rfl
  | cons entry entries ih =>
    cases count with
    | zero => rfl
    | succ count =>
      have shape : moreObjects (entry :: entries) =
          text ", " ++ (entry.object ++ moreObjects entries) := by
        simp [moreObjects]
      rw [shape, readFileEntries_plain count (plain entry (List.mem_cons_self ..)) (.inr rfl),
        ih count fun other member => plain other (List.mem_cons_of_mem _ member)]
      rfl

theorem readFileEntries_escaped (count : Nat) (escaped : ¬ entry.Plain)
    (short : entry.name.length < 255) (comma : between = [] ∨ between = text ", ") (rest : Text)
    (more : List C64FileEntry) :
    readFileEntries count (between ++ (entry.object ++ rest)) ≠
      some (entry.expected :: more) := by
  cases count with
  | zero => exact nofun
  | succ count =>
    rw [readFileEntries_next count entry comma]
    cases ends : strchr 125 (123 :: entry.body rest) with
    | none => exact nofun
    | some found =>
      cases found with
      | none => exact nofun
      | some objEnd =>
        simp only [Option.bind_eq_bind, Option.bind_some, Option.pure_def]
        intro reads
        obtain ⟨read, first, reads⟩ := Option.bind_eq_some_iff.mp reads
        obtain ⟨others, -, reads⟩ := Option.bind_eq_some_iff.mp reads
        obtain ⟨rfl, -⟩ := List.cons.inj (Option.some.inj reads)
        exact readFileEntry_escaped entry short escaped ends first rfl

theorem readFileEntries_inexact (count : Nat) {entries : List ListedEntry}
    (short : ∀ entry ∈ entries, entry.name.length < 255)
    (escaped : ¬ ∀ entry ∈ entries, entry.Plain) :
    readFileEntries count (moreObjects entries) ≠
      some (entries.map ListedEntry.expected) := by
  induction entries generalizing count with
  | nil => exact absurd (by simp) escaped
  | cons entry entries ih =>
    have shape : moreObjects (entry :: entries) =
        text ", " ++ (entry.object ++ moreObjects entries) := by
      simp [moreObjects]
    rw [shape]
    by_cases plain : entry.Plain
    · cases count with
      | zero => exact nofun
      | succ count =>
        rw [readFileEntries_plain count plain (.inr rfl)]
        intro reads
        obtain ⟨more, read, same⟩ := Option.map_eq_some_iff.mp reads
        obtain ⟨-, rfl⟩ := List.cons.inj same
        refine ih count (fun other member => short other (List.mem_cons_of_mem _ member)) ?_ read
        intro others
        exact escaped (List.forall_mem_cons.mpr ⟨plain, others⟩)
    · exact readFileEntries_escaped count plain (short entry (List.mem_cons_self ..)) (.inr rfl) _ _

theorem arrayText_cons (entry : ListedEntry) (entries : List ListedEntry) :
    arrayText (entry :: entries) = [] ++ (entry.object ++ moreObjects entries) := by
  rw [arrayText, moreObjects, List.nil_append]
  exact intercalate_around ListedEntry.object [] entry entries _

theorem parseFileListJson_listing (entries : List ListedEntry) :
    parseFileListJson (fileListing entries) =
      (readFileEntries (countEntries (arrayText entries)) (arrayText entries)).map some := by
  have shape : fileListing entries = [123] ++ (34 :: (text "entries" ++ [34]) ++
      (text ": [" ++ arrayText entries)) := by
    rw [fileListing, arrayText, List.append_assoc]
    rfl
  have key : strstr (text "\"entries\"") (fileListing entries) =
      some (some (34 :: (text "entries" ++ [34]) ++ (text ": [" ++ arrayText entries))) := by
    rw [shape, show text "\"entries\"" = 34 :: (text "entries" ++ [34]) from rfl,
      strstr_append (by decide) (by decide), strstr_here]
  have bracket : strchr 91 (34 :: (text "entries" ++ [34]) ++ (text ": [" ++ arrayText entries)) =
      some (some (91 :: arrayText entries)) := rfl
  unfold parseFileListJson
  rw [key]
  simp only [Option.bind_eq_bind, Option.bind_some, bracket, List.tail_cons, Option.pure_def]
  cases readFileEntries (countEntries (arrayText entries)) (arrayText entries) <;> rfl

end Lists

section Results

/-- The lists that are read exactly: plain names, none of which is taken for the key of a type or a
size that it hides, and as many opening braces as entries before the first closing bracket. -/
structure ListsWell (entries : List ListedEntry) : Prop where
  plain : ∀ entry ∈ entries, entry.Plain
  typed : ∀ entry ∈ entries, entry.mistakesType = true → entry.isDirectory = false
  sized : ∀ entry ∈ entries, entry.mistakesSize = true → entry.size = 0
  counted : entries.length ≤ countEntries (arrayText entries)

theorem readAs_eq_expected_iff (entry : ListedEntry) :
    entry.readAs = entry.expected ↔
      (entry.mistakesType = true → entry.isDirectory = false) ∧
        (entry.mistakesSize = true → entry.size = 0) := by
  unfold ListedEntry.readAs ListedEntry.expected
  rw [C64FileEntry.mk.injEq]
  constructor
  · rintro ⟨-, type, size⟩
    constructor
    · intro mistakes
      simpa [mistakes] using type.symm
    · intro mistakes
      simpa [mistakes] using size.symm
  · rintro ⟨type, size⟩
    refine ⟨rfl, ?_, ?_⟩
    · cases mistakes : entry.mistakesType with
      | false => simp
      | true => simp [type mistakes]
    · cases mistakes : entry.mistakesSize with
      | false => simp
      | true => simp [size mistakes]

theorem parseFileListJson_plain {entries : List ListedEntry}
    (plain : ∀ entry ∈ entries, entry.Plain) :
    parseFileListJson (fileListing entries) =
      some (some ((entries.take (countEntries (arrayText entries))).map ListedEntry.readAs)) := by
  rw [parseFileListJson_listing]
  generalize countEntries (arrayText entries) = count
  cases entries with
  | nil =>
    rw [show arrayText [] = moreObjects [] from rfl, readFileEntries_all count plain]
    rfl
  | cons entry entries =>
    cases count with
    | zero => rfl
    | succ count =>
      rw [arrayText_cons,
        readFileEntries_plain count (plain entry (List.mem_cons_self ..)) (.inl rfl),
        readFileEntries_all count fun other member => plain other (List.mem_cons_of_mem _ member)]
      rfl

theorem parseFileListJson_inexact {entries : List ListedEntry}
    (short : ∀ entry ∈ entries, entry.name.length < 255)
    (escaped : ¬ ∀ entry ∈ entries, entry.Plain) : ¬ ListsExactly entries := by
  unfold ListsExactly
  rw [parseFileListJson_listing]
  generalize countEntries (arrayText entries) = count
  cases entries with
  | nil => exact absurd (by simp) escaped
  | cons entry entries =>
    intro exact
    obtain ⟨reads, read, same⟩ := Option.map_eq_some_iff.mp exact
    obtain rfl := Option.some.inj same
    rw [arrayText_cons] at read
    by_cases plain : entry.Plain
    · cases count with
      | zero => cases read
      | succ count =>
        rw [readFileEntries_plain count plain (.inl rfl)] at read
        obtain ⟨more, read, same⟩ := Option.map_eq_some_iff.mp read
        obtain ⟨-, rfl⟩ := List.cons.inj same
        refine readFileEntries_inexact count
          (fun other member => short other (List.mem_cons_of_mem _ member)) (fun others => ?_) read
        exact escaped (List.forall_mem_cons.mpr ⟨plain, others⟩)
    · exact readFileEntries_escaped count plain (short entry (List.mem_cons_self ..)) (.inl rfl) _ _
        read

/-- Lists are read exactly if they are well formed for the reader, and only then if their names are
shorter than the field. -/
theorem fileListing_exact (entries : List ListedEntry) :
    (ListsWell entries → ListsExactly entries) ∧
      ((∀ entry ∈ entries, entry.name.length < 255) → ListsExactly entries →
        ListsWell entries) := by
  constructor
  · rintro ⟨plain, typed, sized, counted⟩
    rw [ListsExactly, parseFileListJson_plain plain, List.take_of_length_le counted]
    congr 2
    refine List.map_congr_left fun entry member => ?_
    exact (readAs_eq_expected_iff entry).mpr ⟨typed entry member, sized entry member⟩
  · intro short exact
    have plain : ∀ entry ∈ entries, entry.Plain := by
      by_contra escaped
      exact parseFileListJson_inexact short escaped exact
    rw [ListsExactly, parseFileListJson_plain plain] at exact
    have same := Option.some.inj (Option.some.inj exact)
    have counted : entries.length ≤ countEntries (arrayText entries) := by
      have lengths := congrArg List.length same
      rw [List.length_map, List.length_map, List.length_take] at lengths
      omega
    rw [List.take_of_length_le counted] at same
    have each := fun entry member =>
      (readAs_eq_expected_iff entry).mp (List.map_inj_left.mp same entry member)
    exact ⟨plain, fun entry member => (each entry member).1, fun entry member =>
      (each entry member).2, counted⟩

/-- A file called after a part of the title. -/
def bracketedEntry (name : String) : ListedEntry :=
  ⟨text name, false, 4096, [.name, .type, .size], .refl _⟩

/-- Opening brackets and braces do no harm, nor does a closing bracket in the last name. -/
theorem bracketedEntry_exact :
    ListsExactly [bracketedEntry "a\x7b", bracketedEntry "b[1]"] := by
  refine (fileListing_exact _).1 ⟨?_, ?_, ?_, by decide +kernel⟩
  all_goals
    intro entry member
    simp only [List.mem_cons, List.not_mem_nil, or_false] at member
  · rcases member with rfl | rfl
    · exact (show ∀ byte ∈ text "a\x7b", 32 ≤ byte ∧ byte ≠ 34 ∧ byte ≠ 92 ∧ byte ≠ 125 by
        decide +kernel)
    · exact (show ∀ byte ∈ text "b[1]", 32 ≤ byte ∧ byte ≠ 34 ∧ byte ≠ 92 ∧ byte ≠ 125 by
        decide +kernel)
  · rcases member with rfl | rfl <;> exact fun _ => rfl
  · rcases member with rfl | rfl <;> decide

/-- Behind a name with a closing bracket no entry is read; a name with a quote is read up to its
escape; and behind a name with braces the search leaves the response. -/
theorem bracketedEntry_inexact :
    parseFileListJson (fileListing [bracketedEntry "a]", bracketedEntry "b"]) =
      some (some [(bracketedEntry "a]").expected]) ∧
    parseFileListJson (fileListing [bracketedEntry "a\"b"]) =
      some (some [⟨text "a\\", false, 4096⟩]) ∧
    parseFileListJson (fileListing [bracketedEntry "\x7b\x7dx"]) = none ∧
    ¬ ListsExactly [bracketedEntry "a]", bracketedEntry "b"] := by
  refine ⟨?_, ?_, ?_, ?_⟩ <;> decide +kernel

end Results

end C64Stream
