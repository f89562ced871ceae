import Handover.Proofs.Json.Lawful
import Handover.Proofs.Json.Skipping

/-! # Objects that list some of their fields

An object is read as the record of what it lists, whichever fields that are, in whatever order, and
whatever else stands between them (`Record.Follows.reads`).

There is a value for every list of names: `value listed` is the record that was gathered once these
fields were read (`Field.Follows`).  A field only has to say how the value goes on when its name comes
next, so that no two fields are ever compared, and the order of the members does not matter as soon as
it does not matter to `value`.
-/

namespace Handover.Json

variable {α β : Type}

/-! ## Simple values and lists -/

theorem BooleanText.reads {b : Bool} {text : List Char} (shown : BooleanText b text) :
    Reads Format.boolean.read text b := by
  rw [shown]
  cases b with
  | true => exact reads_boolean .compact 0 true
  | false => exact reads_boolean .compact 0 false

theorem Format.Lawful.reads_number {format : Format α} (lawful : format.Lawful) {a : α} {z : Int}
    (written : format.write a = .number z) {text : List Char} (shown : IntegerText z text) :
    Reads format.read text a := by
  have reads := lawful a .compact Layout.plain_compact 0
  rw [written, render] at reads
  rwa [shown]

section

variable {read : Decoder α} {texts : α → List Char → Prop}
  (itemwise : ∀ x text, texts x text → Reads read text x)

include itemwise

theorem Joined.items {first : Bool} {parts : List (List Char)} {body : List Char}
    (joined : Joined first parts body) {xs : List α} (shown : List.Forall₂ texts xs parts) :
    Items read first body xs := by
  induction joined generalizing xs with
  | nil empty =>
    cases shown
    exact .nil empty
  | cons opens _ ih =>
    cases shown with
    | cons head tail => exact .cons opens (itemwise _ _ head) (ih tail)

theorem ListText.reads {xs : List α} {text : List Char} (shown : ListText texts xs text) :
    Reads (Decoder.listOf read) text xs := by
  obtain ⟨parts, body, shows, joined, rfl⟩ := shown
  exact (joined.items itemwise shows).reads

end

/-! ## Fields and entries -/

/-- The texts of the entry are read as changes of the record, after which the value is the one with the
name of the field listed last. -/
structure Field.Follows (field : Field α) (entry : Entry) (value : List String → α) : Prop where
  name : field.name = entry.name
  step : ∀ text, entry.texts text → ∃ change, Reads field.read text change ∧
    ∀ listed, change (value listed) = value (listed ++ [entry.name])

theorem Field.follows {field : Field α} {entry : Entry} {value : List String → α}
    {format : Format β} {set : β → α → α} {b : β} (name : field.name = entry.name)
    (shape : field.read = set <$> format.read)
    (reads : ∀ text, entry.texts text → Reads format.read text b)
    (step : ∀ listed, set b (value listed) = value (listed ++ [entry.name])) :
    field.Follows entry value where
  name
  step text shown := ⟨set b, shape ▸ (reads text shown).map set, step⟩

namespace Record

/-- The value starts as the blank record, and every field goes on with it. -/
structure Follows (record : Record α) (entries : List Entry) (value : List String → α) : Prop where
  distinct : (record.fields.map (·.name)).Nodup
  blank : value [] = record.blank
  fields : List.Forall₂ (fun field entry => field.Follows entry value) record.fields entries

variable {record : Record α} {entries : List Entry} {value : List String → α}

theorem names_eq_of_follows {fields : List (Field α)}
    (follows : List.Forall₂ (fun field entry => field.Follows entry value) fields entries) :
    fields.map (·.name) = entries.map (·.name) := by
  induction follows with
  | nil => rfl
  | cons head _ ih => rw [List.map_cons, List.map_cons, head.name, ih]

theorem exists_field_of_follows {fields : List (Field α)}
    (follows : List.Forall₂ (fun field entry => field.Follows entry value) fields entries)
    {entry : Entry} (known : entry ∈ entries) : ∃ field ∈ fields, field.Follows entry value := by
  induction follows with
  | nil => cases known
  | cons head _ ih =>
    rcases List.mem_cons.mp known with rfl | later
    · exact ⟨_, List.mem_cons_self, head⟩
    · obtain ⟨field, member, follows⟩ := ih later
      exact ⟨field, List.mem_cons_of_mem _ member, follows⟩

/-- A member under a name that no field has is passed. -/
theorem run_readMember_other {name : String} (unknown : name ∉ record.fields.map (·.name))
    (part : Partial α) {before after text rest : List Char} (valid : Valid text) (left : Blank before)
    (right : Blank after) (stops : Stops rest) :
    (record.readMember part name).run (before ++ ':' :: (after ++ (text ++ rest))) =
      .ok (part, rest) := by
  have absent : record.fields.find? (·.name = name) = none := by
    rw [List.find?_eq_none]
    intro field member same
    exact unknown (List.mem_map.mpr ⟨field, member, of_decide_eq_true same⟩)
  rw [readMember, absent]
  show (do Decoder.expect ':'; Decoder.skip; return part : Decoder (Partial α)).run _ = _
  rw [run_bind_of_ok (run_expect left (by decide) _), run_bind_of_ok (valid.run_skip right stops)]
  rfl

/-- One step of the members: a member with a name and what the record makes of it. -/
theorem members_cons {first : Bool} {separator later : List Char} {part part' part'' : Partial α}
    {name : String} {member : Member} (opens : Opens first separator)
    (named : Quotes name member.name)
    (valued : ∀ {rest}, Stops rest → (record.readMember part name).run
      (member.before ++ ':' :: (member.after ++ (member.value ++ rest))) = .ok (part', rest))
    (tail : Members Decoder.name record.readMember false part' later part'') :
    Members Decoder.name record.readMember first part (separator ++ (member.text ++ later)) part'' := by
  obtain ⟨key, quoted, run⟩ := named.exists_body
  have all := @Members.cons _ _ Decoder.name record.readMember first part part' part'' separator key
    (member.before ++ ':' :: (member.after ++ member.value)) later name opens
    (fun rest => (run_bind_of_ok (run_advance _ _)).trans (run rest))
    (fun stops => by simpa using valued stops) tail
  simpa [Member.text, quoted] using all

theorem Follows.members (follows : record.Follows entries value)
    {members : List Member} {names : List String} (lists : Lists entries members names)
    {listed : List String} (fresh : (listed ++ names).Nodup) {first : Bool} {body : List Char}
    (joined : Joined first (members.map Member.text) body) :
    Members Decoder.name record.readMember first ⟨value listed, listed.reverse⟩ body
      ⟨value (listed ++ names), (listed ++ names).reverse⟩ := by
  induction lists generalizing listed first body with
  | nil =>
    cases joined with
    | nil empty =>
      rw [List.append_nil]
      exact .nil empty
  | @entry entry member members names known named valued _ ih =>
    cases joined with
    | cons opens tail =>
      obtain ⟨field, here, follow⟩ := exists_field_of_follows follows.fields known
      have found := (find?_key_eq_some_iff follows.distinct field.name field).mpr ⟨here, rfl⟩
      obtain ⟨change, reads, goesOn⟩ := follow.step member.value valued
      -- a member that was listed before would be refused as repeated
      have unseen : field.name ∉ listed.reverse := by
        rw [List.mem_reverse, follow.name]
        exact fun before => (List.nodup_append.mp fresh).2.2 _ before _ List.mem_cons_self rfl
      rw [List.append_cons] at fresh ⊢
      refine members_cons opens named (fun stops => ?_) (ih fresh tail)
      rw [← goesOn, List.reverse_append, List.reverse_singleton, List.singleton_append, ← follow.name]
      exact run_readMember found unseen reads member.before_blank member.after_blank stops
  | @other name member members names unknown named valued _ ih =>
    cases joined with
    | cons opens tail =>
      refine members_cons opens named (fun stops => ?_) (ih fresh tail)
      rw [← names_eq_of_follows follows.fields] at unknown
      exact run_readMember_other unknown _ valued member.before_blank member.after_blank stops

/-- A record is read from any object that lists at least its required fields: it is the value for the
names listed. -/
theorem Follows.reads (follows : record.Follows entries value) {names : List String}
    {text : List Char} (shown : ObjectText entries names text)
    (complete : ∀ field ∈ record.fields, field.required = true → field.name ∈ names) :
    Reads record.read text (value names) := by
  obtain ⟨once, members, body, lists, joined, rfl⟩ := shown
  have fresh : ([] ++ names).Nodup := once
  have all := follows.members lists fresh joined
  rw [follows.blank] at all
  exact reads_object all.run_allMembers fun field member required => by
    simpa using complete field member required

theorem Follows.reads_optional (follows : record.Follows entries value) {names : List String}
    {text : List Char} (shown : ObjectText entries names text)
    (optional : ∀ field ∈ record.fields, field.required = false) :
    Reads record.read text (value names) :=
  follows.reads shown fun field member required => by
    rw [optional field member] at required
    cases required

theorem Follows.reads_all (follows : record.Follows entries value) {text : List Char}
    (shown : RecordText entries text) {a : α}
    (whole : ∀ names : List String, (∀ entry ∈ entries, entry.name ∈ names) → value names = a) :
    Reads record.read text a := by
  obtain ⟨names, complete, object⟩ := shown
  have listed : ∀ field ∈ record.fields, field.name ∈ names := by
    intro field member
    have name : field.name ∈ entries.map (·.name) :=
      names_eq_of_follows follows.fields ▸ List.mem_map_of_mem member
    obtain ⟨entry, known, same⟩ := List.mem_map.mp name
    exact same ▸ complete entry known
  have reads := follows.reads object fun field member _ => listed field member
  rwa [whole names complete] at reads

end Record

end Handover.Json
