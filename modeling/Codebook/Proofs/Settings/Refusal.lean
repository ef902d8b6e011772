import Codebook.Proofs.Settings.OfYaml
import Codebook.Proofs.Yaml.JsonTexts

/-!
# Names that are no settings, and names that stand twice

A text that names something that is no setting, or a setting twice, is refused, whatever else it says. A
text in JSON is read a second time then, by the other reader, and the names are the same for that one as
far as it gets: it may end at an escape that it does not have, or at a name that is too long for it. If
it gets to the end of the text it finds the same members.
-/

namespace Codebook

open Json Text
open Yaml (Entry Happening IsVisible Mark Member Scalar linesText membersText)

/-! ## Names -/

/-- Names that may stand together behind others: they are settings, and stand once. -/
structure ProperNames (seen names : List String) : Prop where
  known : ∀ name ∈ names, name ∈ settingNames
  once : names.Nodup
  fresh : ∀ name ∈ names, name ∉ seen

theorem properNames_nil (seen : List String) : ProperNames seen [] :=
  ⟨by simp, List.nodup_nil, by simp⟩

/-- Names are proper if the first one is, and the others are behind it. -/
theorem ProperNames.cons {seen names : List String} {name : String} (known : name ∈ settingNames)
    (fresh : name ∉ seen) (others : ProperNames (name :: seen) names) :
    ProperNames seen (name :: names) where
  known := List.forall_mem_cons.mpr ⟨known, others.known⟩
  once := List.nodup_cons.mpr ⟨fun member => others.fresh name member List.mem_cons_self, others.once⟩
  fresh := List.forall_mem_cons.mpr
    ⟨fresh, fun other member inSeen => others.fresh other member (List.mem_cons_of_mem name inSeen)⟩

/-- Members that stand for a layer have proper names. -/
theorem properNames_of_addMembers? {members : List (String × Json)} :
    ∀ {layer result : Layer} {seen : List String}, layer.addMembers? seen members = some result →
      ProperNames seen (members.map Prod.fst) := by
  induction members with
  | nil => exact fun _ => properNames_nil _
  | cons member members ih =>
    intro layer result seen added
    obtain ⟨name, value⟩ := member
    unfold Layer.addMembers? at added
    by_cases again : seen.contains name = true
    · rw [if_pos again] at added
      cases added
    rw [if_neg again] at added
    dsimp only at added
    split at added
    · rename_i next taken
      have known : name ∈ settingNames := by
        split at taken
        · decide
        · decide
        · decide
        · decide
        · cases taken
      exact (ih added).cons known (by simpa using again)
    · cases added

/-- Entries that fit have proper names. -/
theorem properNames_of_fitEntries {start : Mark} {pairs : List (Scalar × Scalar)} :
    ∀ {layer result : Layer} {seen : List String} {happenings : List Happening},
      happenings.map Happening.event = Yaml.entryEvents pairs →
      layer.fitEntries start seen happenings = .ok result →
      ProperNames seen (pairs.map fun pair => pair.1.text) := by
  induction pairs with
  | nil => exact fun _ _ => properNames_nil _
  | cons pair pairs ih =>
    intro layer result seen happenings cut fits
    obtain ⟨key, _, rfl, isKey, cutValue⟩ := List.map_eq_cons_iff.mp cut
    obtain ⟨value, rest, rfl, isValue, cutRest⟩ := List.map_eq_cons_iff.mp cutValue
    obtain ⟨known, fresh, next, -, others⟩ := (fitEntries_eq_ok_iff isKey).mp fits
    exact (ih cutRest others).cons known fresh

/-- A document that holds a mapping is refused if its names are not proper. -/
theorem ofYaml_improper {text : List Char} {pairs : List (Scalar × Scalar)}
    (document : ((Yaml.Document.ofText text).complete && (Yaml.Document.ofText text).alone) = false ∨
      (Yaml.Document.ofText text).Tells (.mappingStart none :: Yaml.entryEvents pairs))
    (improper : ¬ ProperNames [] (pairs.map fun pair => pair.1.text)) :
    ∃ fault, Layer.ofYaml text = .error fault := by
  rcases document with unsaid | tells
  · exact ofYaml_unsaid unsaid
  · obtain ⟨start, happenings, cut, read⟩ := ofYaml_tells tells
    rw [read]
    cases fits : Layer.empty.fitEntries start [] happenings with
    | error fault => exact ⟨fault, rfl⟩
    | ok layer => exact absurd (properNames_of_fitEntries cut fits) improper

/-! ## The texts -/

/-- The ways to write a member without blanks. -/
inductive CompactMember : String × Json → List Char → Prop where
  | pair {name : String} {value : Json} {key text : List Char} (nameWritten : WrittenText name key)
      (valueWritten : WrittenScalar value text) : CompactMember (name, value) (key ++ ':' :: text)

/-- The ways to write some members without blanks, up to the closing brace. -/
inductive CompactMembers : List (String × Json) → List Char → Prop where
  | last {member : String × Json} {text : List Char} (written : CompactMember member text) :
      CompactMembers [member] (text ++ ['}'])
  | more {member : String × Json} {members : List (String × Json)} {text rest : List Char}
      (written : CompactMember member text) (others : CompactMembers members rest) :
      CompactMembers (member :: members) (text ++ ',' :: rest)

/-- The ways to write some members as an object without blanks, with visible characters only. -/
structure CompactObject (members : List (String × Json)) (text : List Char) : Prop where
  visible : ∀ c ∈ text, IsVisible c
  braces : ∃ rest, text = '{' :: rest ∧ CompactMembers members rest

/-- A line for a member, with its name between quotes. -/
structure LinedMember (member : String × Json) (entry : Entry) : Prop where
  key : entry.key = ⟨member.1, .double⟩
  value : member.2.ShownBy entry.value

/-- The ways to write some members on lines. -/
inductive LinedMembers (members : List (String × Json)) : List Char → Prop where
  | lines {entries : List Entry} {closed : Bool} (shown : List.Forall₂ LinedMember members entries) :
      LinedMembers members (linesText closed entries)

theorem CompactMember.written {member : String × Json} {text : List Char}
    (compact : CompactMember member text) : WrittenMember member text := by
  have nothing : Blanks [] := by simp [Blanks]
  obtain ⟨nameWritten, valueWritten⟩ := compact
  exact .pair nameWritten nothing nothing valueWritten

/-- Members without blanks are one of the ways to write them. -/
theorem CompactMembers.listed {members : List (String × Json)} {text : List Char}
    (compact : CompactMembers members text) :
    ∃ inner, text = inner ++ ['}'] ∧ Listed WrittenMember members inner := by
  have nothing : Blanks [] := by simp [Blanks]
  induction compact with
  | @last member text written =>
    have listed := Listed.last written.written nothing
    rw [List.append_nil] at listed
    exact ⟨text, rfl, listed⟩
  | @more member members text rest written _ ih =>
    obtain ⟨inner, rfl, listed⟩ := ih
    exact ⟨_, by simp, .more written.written nothing nothing listed⟩

theorem CompactObject.whole {members : List (String × Json)} {text : List Char}
    (compact : CompactObject members text) : WrittenWhole (.object members) text := by
  have nothing : Blanks [] := by simp [Blanks]
  obtain ⟨-, _, rfl, compact⟩ := compact
  obtain ⟨inner, rfl, listed⟩ := compact.listed
  exact .object nothing nothing listed nothing

/-- The member that is found between the braces for YAML. -/
theorem CompactMember.member {member : String × Json} {text : List Char}
    (compact : CompactMember member text) (visible : ∀ c ∈ text, IsVisible c) :
    ∃ found : Member, text = found.text ∧ found.name = member.1 := by
  obtain ⟨nameWritten, valueWritten⟩ := compact
  simp only [List.forall_mem_append, List.forall_mem_cons] at visible
  obtain ⟨visibleName, -, visibleValue⟩ := visible
  obtain ⟨scalar, valueTried⟩ := Yaml.tried_of_writtenScalar valueWritten visibleValue
  exact ⟨⟨_, scalar, _, _, Yaml.tried_of_writtenText nameWritten visibleName, valueTried⟩, rfl, rfl⟩

theorem CompactMembers.members {members : List (String × Json)} {text : List Char}
    (compact : CompactMembers members text) (visible : ∀ c ∈ text, IsVisible c) :
    ∃ found : List Member, found ≠ [] ∧ text = membersText found ∧
      found.map Member.name = members.map Prod.fst := by
  induction compact with
  | last written =>
    obtain ⟨found, rfl, name⟩ := written.member (List.forall_mem_append.mp visible).1
    exact ⟨[found], by simp, rfl, by simp [name]⟩
  | more written _ ih =>
    rw [List.forall_mem_append, List.forall_mem_cons] at visible
    obtain ⟨found, rfl, name⟩ := written.member visible.1
    obtain ⟨others, notEmpty, rfl, names⟩ := ih visible.2.2
    obtain ⟨next, rest, rfl⟩ := List.exists_cons_of_ne_nil notEmpty
    exact ⟨found :: next :: rest, by simp, rfl, by simp_all⟩

/-! ## Refusal -/

/-- An object with improper names is refused by both readers. -/
theorem CompactObject.refused {members : List (String × Json)} {text : String}
    (compact : CompactObject members text.toList)
    (improper : ¬ ProperNames [] (members.map Prod.fst)) :
    ∃ fault, Layer.read text = .error fault := by
  have noLayer : (Json.read? text).bind Layer.ofJson? = none := by
    rw [compact.whole.read, Option.bind_some, Option.eq_none_iff_forall_ne_some]
    exact fun layer added => improper (properNames_of_addMembers? added)
  obtain ⟨rest, starts, members⟩ := compact.braces
  have visible : ∀ c ∈ rest, IsVisible c := fun c member =>
    compact.visible c (starts ▸ List.mem_cons_of_mem _ member)
  obtain ⟨found, notEmpty, rfl, names⟩ := members.members visible
  have document := Yaml.ofText_membersText notEmpty
  rw [← starts] at document
  have member : '{' ∈ text.toList := by simp [starts]
  rw [read_eq_ofYaml member (by decide) noLayer]
  refine ofYaml_improper document ?_
  rw [List.map_map]
  exact names ▸ improper

/-- A text that starts with a quote is at most a string in JSON. -/
theorem ofJson?_quote {text : String} {rest : List Char} (starts : text.toList = '"' :: rest) :
    (Json.read? text).bind Layer.ofJson? = none := by
  have value : readJsonValue? (2 * text.length + 2) text.toList =
      (readJsonString? (rest.length + 1) rest).map fun read =>
        (.text (String.ofList read.1), read.2) := by
    rw [starts]
    rfl
  rw [Json.read?, value]
  cases readJsonString? (rest.length + 1) rest with
  | none => rfl
  | some read =>
    change (if (skipJsonBlanks read.2).isEmpty then some (Json.text (String.ofList read.1))
      else none).bind Layer.ofJson? = none
    split <;> rfl

/-- The line of a member starts with the quote of its name. -/
theorem LinedMember.starts {member : String × Json} {entry : Entry} (lined : LinedMember member entry) :
    ∃ rest, entry.line = '"' :: rest := by
  obtain ⟨inner, quoted, -⟩ := Scalar.Written.quotedText (lined.key ▸ entry.keyWritten)
  exact ⟨_, by rw [Entry.line, quoted]; rfl⟩

theorem names_of_lined {members : List (String × Json)} {entries : List Entry}
    (shown : List.Forall₂ LinedMember members entries) :
    (entries.map Entry.pair).map (fun pair => pair.1.text) = members.map Prod.fst := by
  induction shown with
  | nil => rfl
  | cons first _ ih => rw [List.map_cons, List.map_cons, List.map_cons, ih, Entry.pair, first.key]

/-- Lines with improper names are no object in JSON, and are refused. -/
theorem LinedMembers.refused {members : List (String × Json)} {text : String}
    (lined : LinedMembers members text.toList)
    (improper : ¬ ProperNames [] (members.map Prod.fst)) :
    ∃ fault, Layer.read text = .error fault := by
  generalize whole : text.toList = characters at lined
  obtain @⟨entries, closed, shown⟩ := lined
  rw [← names_of_lined shown] at improper
  cases shown with
  | nil => exact absurd (properNames_nil []) improper
  | @cons member entry members entries first shown =>
    have document : ((Yaml.Document.ofText text.toList).complete &&
        (Yaml.Document.ofText text.toList).alone) = false ∨
          (Yaml.Document.ofText text.toList).Tells
            (.mappingStart none :: Yaml.entryEvents ((entry :: entries).map Entry.pair)) := by
      rw [whole]
      by_cases found : ∀ other ∈ entry :: entries, other.Found
      · exact .inr (Yaml.ofText_linesText closed (List.cons_ne_nil entry entries) found)
      · refine .inl (Yaml.ofText_linesText_lost closed ?_)
        simpa only [not_forall, exists_prop] using found
    obtain ⟨behind, line⟩ := Yaml.linesText_cons closed entry entries
    obtain ⟨more, quoted⟩ := first.starts
    have starts : text.toList = '"' :: (more ++ behind) := by rw [whole, line, quoted]; rfl
    have inText : '"' ∈ text.toList := by simp [starts]
    rw [read_eq_ofYaml inText (by decide) (ofJson?_quote starts)]
    exact ofYaml_improper document improper

/-- No name that is no setting, and no second one for the same, is passed over: a text with such a name
is refused, as an object as well as on lines. -/
theorem improper_names_are_refused (members : List (String × Json)) (text : String)
    (improper : (∃ member ∈ members, member.1 ∉ settingNames) ∨ ¬ (members.map Prod.fst).Nodup)
    (written : CompactObject members text.toList ∨ LinedMembers members text.toList) :
    ∃ fault, Layer.read text = .error fault := by
  have notProper : ¬ ProperNames [] (members.map Prod.fst) := by
    rintro ⟨known, once, -⟩
    rcases improper with ⟨member, inMembers, unknown⟩ | twice
    · exact unknown (known member.1 (List.mem_map_of_mem inMembers))
    · exact twice once
  rcases written with compact | lined
  · exact compact.refused notProper
  · exact lined.refused notProper

/-- A setting that stands twice, once as null, and a name in two halves, for which YAML has no escape. -/
theorem improper_members_are_refused :
    (CompactObject [("strict", .bool true), ("strict", .null)]
        "\x7b\"strict\":true,\"strict\":null\x7d".toList ∧
      ∃ fault, Layer.read "\x7b\"strict\":true,\"strict\":null\x7d" = .error fault) ∧
    (CompactObject [("😀", .null)] "\x7b\"\\ud83d\\ude00\":null\x7d".toList ∧
      ∃ fault, Layer.read "\x7b\"\\ud83d\\ude00\":null\x7d" = .error fault) := by
  have raw : Json.Spelled "strict".toList "strict".toList := Json.spelled_raw (by decide)
  have strict : WrittenText "strict" "\"strict\"".toList := .quoted raw
  have face : Json.SpelledChar '😀' "\\ud83d\\ude00".toList :=
    .halves
      (FourDigits.digits (i := 13) (j := 8) (k := 3) (l := 13) (.inl rfl) (.inl rfl) (.inl rfl)
        (.inl rfl))
      (FourDigits.digits (i := 13) (j := 14) (k := 0) (l := 0) (.inl rfl) (.inl rfl) (.inl rfl)
        (.inl rfl))
      (by decide) (by decide) (by decide)
  have halves : Json.Spelled "😀".toList "\\ud83d\\ude00".toList := .more face .nothing
  have name : WrittenText "😀" "\"\\ud83d\\ude00\"".toList := .quoted halves
  have twice : CompactObject [("strict", .bool true), ("strict", .null)]
      "\x7b\"strict\":true,\"strict\":null\x7d".toList :=
    ⟨by decide, _, rfl, CompactMembers.more (.pair strict .isTrue) (.last (.pair strict .null))⟩
  have unknown : CompactObject [("😀", .null)] "\x7b\"\\ud83d\\ude00\":null\x7d".toList :=
    ⟨by decide, _, rfl, CompactMembers.last (.pair name .null)⟩
  refine ⟨⟨twice, ?_⟩, unknown, ?_⟩
  · exact improper_names_are_refused _ _ (.inr (by decide)) (.inl twice)
  · exact improper_names_are_refused _ _ (.inl ⟨_, List.mem_cons_self, by decide⟩) (.inl unknown)

end Codebook
