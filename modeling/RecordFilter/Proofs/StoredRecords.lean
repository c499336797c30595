import RecordFilter.Dataset
import RecordFilter.Listing
import RecordFilter.Proofs.CalendarText
import RecordFilter.Proofs.JsonText

/-! # Records are read back

A dataset is read back from the text in which it is stored, and from a listing. -/

namespace RecordFilter

/-! ## Records are read back from their stored form

The stored form of a dataset is an object of arrays of objects whose values are numbers and strings,
so that its text is read back as it was written (`Json.read?_text`).  What is left to show is that
the fields of a record are found again under their names (`Json.members?_ofMembers`), in whichever
order they stand (`Jogging.ofJson?_ofMembers`), and that the text of each stands for its value: a
date of any year (`Date.readLoose?_chars`), a time with its fraction and leap second
(`TimeOfDay.readLoose?_preciseChars`), a member that may be left out.  Together a dataset is read
back from its text (`Dataset.read?_text`). -/

/-! ### Dates -/

theorem dropBlanks_nil : dropBlanks [] = [] := rfl

theorem dropBlanks_cons {c : Char} (h : isBlank c = false) (cs : List Char) :
    dropBlanks (c :: cs) = c :: cs := by
  simp [dropBlanks, h]

namespace Date

theorem readYear_minus (cs : List Char) :
    readYear ('-' :: cs) = (readNumber cs.length cs).map fun (n, rest) => (-(n : Int), rest) := by
  rw [readYear, dropBlanks_cons (by decide)]
  rfl

theorem readYear_plus (cs : List Char) :
    readYear ('+' :: cs) = (readNumber cs.length cs).map fun (n, rest) => ((n : Int), rest) := by
  rw [readYear, dropBlanks_cons (by decide)]
  rfl

/-- Behind a sign the numeral of a year goes as far as the next dash. -/
theorem readNumber_year (n : Nat) (rest : List Char) :
    readNumber (paddedNumeral 4 n ++ '-' :: rest).length (paddedNumeral 4 n ++ '-' :: rest) =
      some (n, '-' :: rest) := by
  have hr : ∀ c ∈ ('-' :: rest).head?, c.isDigit = false := by
    intro c hc
    obtain rfl := Option.some.inj hc
    rfl
  have hl : (paddedNumeral 4 n).length ≤ (paddedNumeral 4 n ++ '-' :: rest).length := by
    rw [List.length_append]
    exact Nat.le_add_right _ _
  have hd := readDigits_append (paddedNumeral_ne_nil 4 n)
    (fun _ => isDigit_of_mem_paddedNumeral) hl (.inr hr)
  rw [readNumber_of_readDigits hd, digitsValue_paddedNumeral]

theorem readYear_yearText (year : Int) (rest : List Char) :
    readYear (yearText year ++ '-' :: rest) = some (year, '-' :: rest) := by
  unfold yearText
  by_cases hn : year < 0
  · rw [if_pos hn, List.cons_append, readYear_minus, readNumber_year, Option.map_some]
    simp only
    congr 2
    omega
  rw [if_neg hn]
  by_cases hy : year < 10000
  · rw [if_pos hy, readYear_digits (paddedNumeral_isDigits (by decide) (by omega)),
      digitsValue_paddedNumeral]
    congr 2
    omega
  · rw [if_neg hy, List.cons_append, readYear_plus, readNumber_year, Option.map_some]
    simp only
    congr 2
    omega

theorem readLoose?_chars (d : Date) : readLoose? d.chars = some d := by
  obtain ⟨-, ⟨-, hm⟩, -, hd⟩ := d.isDate
  have hd' := hd.trans (daysInMonth_le d.year d.month)
  have hmonth : IsDigits 2 (paddedNumeral 2 d.month) :=
    paddedNumeral_isDigits (by decide) (by omega)
  have hday : IsDigits 2 (paddedNumeral 2 d.day) := paddedNumeral_isDigits (by decide) (by omega)
  have hn : readNumber 2 (paddedNumeral 2 d.day) = some (d.day, []) := by
    have h := readNumber_append (by decide) hday []
    rwa [List.append_nil, digitsValue_paddedNumeral] at h
  have hb : dropBlanks (paddedNumeral 2 d.day) = paddedNumeral 2 d.day := by
    have h := dropBlanks_digits hday []
    rwa [List.append_nil] at h
  have hc : d.chars = yearText d.year ++ '-' :: (paddedNumeral 2 d.month ++
      '-' :: paddedNumeral 2 d.day) := by
    simp [chars]
  have ho : ofNumbers? d.year d.month d.day = some d := ofNumbers?_eq_some_iff.mpr ⟨rfl, rfl, rfl⟩
  rw [hc, readLoose?, readWith]
  simp [readYear_yearText, dropBlanks_cons (show isBlank '-' = false by decide),
    dropBlanks_digits hmonth, readNumber_append (by decide) hmonth, hb, hn, ho, dropBlanks_nil]

end Date

/-! ### Times of day -/

namespace TimeOfDay

theorem digitsValue_append_zeros (digits : List Char) (n : Nat) :
    digitsValue (digits ++ List.replicate n '0') = digitsValue digits * 10 ^ n := by
  induction n with
  | zero => simp
  | succ n ih =>
      rw [List.replicate_succ', ← List.append_assoc, digitsValue_concat, ih, Nat.pow_succ]
      change 10 * (digitsValue digits * 10 ^ n) + 0 = _
      rw [Nat.add_zero, Nat.mul_comm, Nat.mul_assoc]

/-- A fraction in `width` digits counts units of `10 ^ (9 - width)` nanoseconds. -/
theorem readFraction_digits {width n : Nat} (hw : 0 < width) (hw' : width ≤ 9)
    (hn : n < 10 ^ width) :
    readFraction ('.' :: paddedNumeral width n) = some (n * 10 ^ (9 - width), []) := by
  have hd := paddedNumeral_isDigits hw hn
  have h : readDigits 9 (paddedNumeral width n) = some (paddedNumeral width n, []) := by
    have happend := @readDigits_append 9 _ [] (paddedNumeral_ne_nil width n) hd.2
      (hd.1.trans_le hw') (.inr (by simp))
    rwa [List.append_nil] at happend
  simp [readFraction, h, hd.1, digitsValue_append_zeros]

theorem readFraction_fractionText {n : Nat} (hn : n < 1000000000) :
    readFraction (fractionText n) = some (n, []) := by
  unfold fractionText
  by_cases h₀ : n = 0
  · rw [if_pos h₀, h₀]
    rfl
  rw [if_neg h₀]
  by_cases h₃ : n % 1000000 = 0
  · rw [if_pos h₃, readFraction_digits (by decide) (by decide) (by omega)]
    congr 2
    omega
  rw [if_neg h₃]
  by_cases h₆ : n % 1000 = 0
  · rw [if_pos h₆, readFraction_digits (by decide) (by decide) (by omega)]
    congr 2
    omega
  · rw [if_neg h₆, readFraction_digits (by decide) (by decide) (by omega)]
    congr 2
    omega

/-- The second that is written and the rest of the nanoseconds make up the time. -/
theorem ofShown?_shownSecond (t : TimeOfDay) :
    ofShown? t.hour t.minute t.shownSecond (t.nanosecond % 1000000000) = some t := by
  obtain ⟨-, -, hs, hn⟩ := t.isTimeOfDay
  unfold ofShown? shownSecond
  split
  · exact ofNumbers?_eq_some_iff.mpr ⟨rfl, rfl, by omega, by omega⟩
  · exact ofNumbers?_eq_some_iff.mpr ⟨rfl, rfl, by omega, by omega⟩

theorem readLoose?_preciseChars (t : TimeOfDay) : readLoose? t.preciseChars = some t := by
  obtain ⟨hh, hm, hs, hc⟩ := t.chars_grouped
  have hf := readFraction_fractionText (Nat.mod_lt t.nanosecond (show 0 < 1000000000 by decide))
  have hb : ∀ cs, dropBlanks (':' :: cs) = ':' :: cs := dropBlanks_cons (by decide)
  rw [preciseChars, hc, readLoose?]
  simp [readPart_digits hh, readPart_digits hm, readPart_digits hs, hb, hf, ofShown?_shownSecond,
    dropBlanks_nil]

end TimeOfDay

/-! ### Members and items -/

namespace Json

theorem mapM_map_eq_some {α β γ : Type} {f : α → β} {g : β → Option γ} {r : α → γ}
    (h : ∀ a, g (f a) = some (r a)) (as : List α) : (as.map f).mapM g = some (as.map r) := by
  induction as with
  | nil => rfl
  | cons a as ih => simp [h, ih]

/-- The members of an object are found again if they have the names of different fields. -/
theorem members?_ofMembers {fields : List String} {members : List (String × Json)}
    (hf : ∀ m ∈ members, m.1 ∈ fields) (hn : (members.map (·.1)).Nodup) :
    (ofMembers members).members? fields = some members := by
  have hk : members.filter (fields.contains ·.1) = members :=
    List.filter_eq_self.mpr fun m hm => List.contains_iff_mem.mpr (hf m hm)
  rw [ofMembers, members?, @mapM_map_eq_some _ _ _ _ _ id, List.map_id]
  · simp only [Option.bind_eq_bind, Option.bind_some, hk]
    rw [if_pos hn]
  · intro m
    rfl

theorem list?_map {α β : Type} {toJson : α → Json} {ofJson? : Json → Option β} {r : α → β}
    (h : ∀ a, ofJson? (toJson a) = some (r a)) (as : List α) :
    list? ofJson? (.array (as.map toJson)) = some (as.map r) :=
  mapM_map_eq_some h as

theorem allPlain_map {α : Type} {toJson : α → Json} (h : ∀ a, (toJson a).Plain) (as : List α) :
    AllPlain (as.map toJson) := by
  induction as with
  | nil => trivial
  | cons a as ih => exact ⟨h a, ih⟩

theorem plain_ofMembers {members : List (String × Json)} (h : ∀ m ∈ members, m.2.Plain) :
    (ofMembers members).Plain := by
  induction members with
  | nil => trivial
  | cons m members ih =>
      obtain ⟨hm, hms⟩ := List.forall_mem_cons.mp h
      exact ⟨rfl, hm, ih hms⟩

end Json

/-! ### Fields -/

namespace Json

theorem int64?_ofInt64 (n : Int64) : int64? (ofInt64 n) = some n :=
  toInt64?_toInt n

theorem text?_ofString (s : String) : text? (ofString s) = some s := rfl

theorem role?_name (r : Role) : role? (ofString r.name) = some r := by
  cases r <;> rfl

theorem date?_text (d : Date) : date? (ofString d.text) = some d := by
  rw [date?, text?_ofString, Option.bind_some, Date.text, String.toList_ofList,
    Date.readLoose?_chars]

theorem time?_preciseText (t : TimeOfDay) : time? (ofString t.preciseText) = some t := by
  rw [time?, text?_ofString, Option.bind_some, TimeOfDay.preciseText, String.toList_ofList,
    TimeOfDay.readLoose?_preciseChars]

theorem required_of_lookup {α : Type} {members : List (String × Json)} {name : String} {j : Json}
    {value? : Json → Option α} (h : members.lookup name = some j) :
    required members name value? = value? j := by
  rw [required, h, Option.bind_some]

theorem optional_of_lookup {members : List (String × Json)} {name : String}
    {value : Option String} (h : members.lookup name = value.map ofString) :
    optional members name none optionalText? = some value := by
  rw [optional, h]
  cases value <;> rfl

theorem lookup_optionalMember (name name' : String) (value : Option String) :
    (optionalMember name value).lookup name' =
      if name' == name then value.map ofString else none := by
  cases value with
  | none => simp [optionalMember]
  | some s => cases h : name' == name <;> simp [optionalMember, List.lookup_cons, h]

theorem plain_ofInt64 (n : Int64) : (ofInt64 n).Plain := trivial

theorem plain_ofString (s : String) : (ofString s).Plain := rfl

theorem plain_of_mem_optionalMember {name : String} {value : Option String} {m : String × Json}
    (h : m ∈ optionalMember name value) : m.2.Plain := by
  cases value with
  | none => cases h
  | some s =>
      rw [List.mem_singleton.mp h]
      exact plain_ofString s

theorem plain_ofMembers_optional {members : List (String × Json)} (h : ∀ m ∈ members, m.2.Plain)
    {name name' : String} {value value' : Option String} :
    (ofMembers (members ++ optionalMember name value ++ optionalMember name' value')).Plain := by
  apply plain_ofMembers
  simp only [List.forall_mem_append]
  exact ⟨⟨h, fun _ => plain_of_mem_optionalMember⟩, fun _ => plain_of_mem_optionalMember⟩

end Json

/-! ### Records -/

theorem User.plain_toJson (u : User) : u.toJson.Plain := by
  apply Json.plain_ofMembers
  simp [Json.plain_ofInt64, Json.plain_ofString]

/-- A user is read from an object with its fields, whatever their order. -/
theorem User.ofJson?_ofMembers {members : List (String × Json)} {u : User}
    (hfields : ∀ m ∈ members, m.1 ∈ ["id", "version", "name", "role"])
    (hnames : (members.map (·.1)).Nodup)
    (hid : members.lookup "id" = some (.ofInt64 u.id))
    (hversion : members.lookup "version" = some (.ofInt64 u.version))
    (hname : members.lookup "name" = some (.ofString u.name))
    (hrole : members.lookup "role" = some (.ofString u.role.name)) :
    ofJson? (.ofMembers members) = some u := by
  rw [ofJson?, Json.members?_ofMembers hfields hnames]
  simp [Json.required_of_lookup hid, Json.optional, hversion, Json.required_of_lookup hname,
    Json.required_of_lookup hrole, Json.int64?_ofInt64, Json.text?_ofString, Json.role?_name]

theorem User.ofJson?_toJson (u : User) : ofJson? u.toJson = some u := by
  apply ofJson?_ofMembers <;> simp [List.lookup_cons]

theorem Jogging.plain_toJson (j : Jogging) : j.toJson.Plain := by
  apply Json.plain_ofMembers_optional
  simp [Json.plain_ofInt64, Json.plain_ofString]

/-- A session is read from an object with its fields, whatever their order. -/
theorem Jogging.ofJson?_ofMembers {members : List (String × Json)} {j : Jogging}
    (hfields : ∀ m ∈ members, m.1 ∈ ["id", "version", "user", "date", "distance", "time",
      "location", "averageTemperature", "weatherCondition"])
    (hnames : (members.map (·.1)).Nodup)
    (hid : members.lookup "id" = some (.ofInt64 j.id))
    (hversion : Json.optional members "version" 0 Json.int64? = some j.version)
    (huser : members.lookup "user" = some (.ofString j.user))
    (hdate : members.lookup "date" = some (.ofString j.date.text))
    (hdistance : members.lookup "distance" = some (.ofInt64 j.distance))
    (htime : Json.required members "time" Json.time? = some j.time)
    (hlocation : members.lookup "location" = some (.ofString j.location))
    (htemperature : members.lookup "averageTemperature" = j.averageTemperature.map .ofString)
    (hcondition : members.lookup "weatherCondition" = j.weatherCondition.map .ofString) :
    ofJson? (.ofMembers members) = some j := by
  rw [ofJson?, Json.members?_ofMembers hfields hnames]
  simp [Json.required_of_lookup hid, hversion, Json.required_of_lookup huser,
    Json.required_of_lookup hdate, Json.required_of_lookup hdistance, htime,
    Json.required_of_lookup hlocation, Json.optional_of_lookup htemperature,
    Json.optional_of_lookup hcondition, Json.int64?_ofInt64, Json.text?_ofString,
    Json.date?_text]

theorem Jogging.ofJson?_toJson (j : Jogging) : ofJson? j.toJson = some j := by
  apply ofJson?_ofMembers
  case hfields | hnames =>
    cases j.averageTemperature <;> cases j.weatherCondition <;> simp [Json.optionalMember]
  all_goals
    simp [Json.optional, Json.required, List.lookup_append, List.lookup_cons,
      Json.lookup_optionalMember, Json.int64?_ofInt64, Json.time?_preciseText]

/-! ### Datasets -/

namespace Dataset

/-- A dataset is read from the text of an object with one or both of its lists. -/
theorem read?_ofMembers {members : List (String × Json)} {us : List User} {js : List Jogging}
    (hplain : ∀ m ∈ members, m.2.Plain) (hfields : ∀ m ∈ members, m.1 ∈ ["users", "joggings"])
    (hnames : (members.map (·.1)).Nodup)
    (husers : Json.optional members "users" [] (Json.list? User.ofJson?) = some us)
    (hjoggings : Json.optional members "joggings" [] (Json.list? Jogging.ofJson?) = some js) :
    read? (Json.ofMembers members).text = some ⟨us, js⟩ := by
  rw [read?, Json.read?_text (Json.plain_ofMembers hplain), Option.bind_some, ofJson?,
    Json.members?_ofMembers hfields hnames]
  simp [husers, hjoggings]

/-- **Every dataset is read back from the text in which it is stored.** -/
theorem read?_text (d : Dataset) : read? d.text = some d := by
  apply read?_ofMembers
  case hplain =>
    simp [Json.Plain, Json.allPlain_map User.plain_toJson, Json.allPlain_map Jogging.plain_toJson]
  case hfields | hnames => simp
  case husers => simp [Json.optional, Json.list?_map User.ofJson?_toJson]
  case hjoggings =>
    simp [Json.optional, List.lookup_cons, Json.list?_map Jogging.ofJson?_toJson]

end Dataset

/-! ## Listings are read back

A listing in JSON is a text of its own, but it keeps within what a dataset may look like: one of the
two lists of a dataset may be missing, and so may the version of a record.  A user is listed with
all its fields.  A session is listed with its fields in another order, without its version and with
whole seconds (`Jogging.asListed`), and is read from such an object as from its stored form
(`Jogging.ofJson?_listingEntry`).  So a listing can be loaded as a dataset, with the same records in
the same order (`read?_listingJson`). -/

/-! ### Times in whole seconds -/

namespace TimeOfDay

/-- The time without the fraction of its second, which is still a leap second if it was one. -/
def wholeSecond (t : TimeOfDay) : TimeOfDay where
  hour := t.hour
  minute := t.minute
  second := t.second
  nanosecond := t.nanosecond / 1000000000 * 1000000000
  isTimeOfDay := by
    obtain ⟨hhour, hminute, hsecond, hnanosecond⟩ := t.isTimeOfDay
    exact ⟨hhour, hminute, hsecond, by omega⟩

@[simp] theorem isLeapSecond_wholeSecond (t : TimeOfDay) :
    t.wholeSecond.isLeapSecond = t.isLeapSecond := by
  unfold isLeapSecond wholeSecond
  congr 1
  simp only [eq_iff_iff]
  omega

/-- The written form without a fraction is that of the whole second with its fraction. -/
theorem preciseText_wholeSecond (t : TimeOfDay) : t.wholeSecond.preciseText = t.text := by
  have hchars : t.wholeSecond.chars = t.chars := by
    simp [chars, shownSecond, wholeSecond]
  have hfraction : t.wholeSecond.nanosecond % 1000000000 = 0 := Nat.mul_mod_left _ _
  rw [preciseText, preciseChars, hchars, hfraction, fractionText, if_pos rfl, List.append_nil, text]

end TimeOfDay

theorem Json.time?_text (t : TimeOfDay) : time? (ofString t.text) = some t.wholeSecond := by
  rw [← t.preciseText_wholeSecond, time?_preciseText]

/-! ### Listed records -/

theorem User.plain_listingEntry (u : User) : u.listingEntry.Plain := by
  apply Json.plain_ofMembers
  simp [Json.plain_ofInt64, Json.plain_ofString]

theorem User.ofJson?_listingEntry (u : User) : ofJson? u.listingEntry = some u := by
  apply ofJson?_ofMembers <;> simp [List.lookup_cons]

namespace Jogging

/-- What a listing tells of a session. -/
def asListed (j : Jogging) : Jogging :=
  { j with version := 0, time := j.time.wholeSecond }

theorem plain_listingEntry (j : Jogging) : j.listingEntry.Plain := by
  apply Json.plain_ofMembers_optional
  simp [Json.plain_ofInt64, Json.plain_ofString]

theorem ofJson?_listingEntry (j : Jogging) : ofJson? j.listingEntry = some j.asListed := by
  apply ofJson?_ofMembers
  case hfields | hnames =>
    cases j.averageTemperature <;> cases j.weatherCondition <;> simp [Json.optionalMember]
  all_goals
    simp [asListed, Json.optional, Json.required, List.lookup_append, List.lookup_cons,
      Json.lookup_optionalMember, Json.time?_text]

end Jogging

/-! ### Listings as datasets -/

namespace Dataset

theorem read?_listedUsers (us : List User) : read? (User.listingJson us) = some ⟨us, []⟩ := by
  apply read?_ofMembers
  case hplain => simp [Json.Plain, Json.allPlain_map User.plain_listingEntry]
  case hfields | hnames => simp
  case husers => simp [Json.optional, Json.list?_map User.ofJson?_listingEntry]
  case hjoggings => simp [Json.optional, List.lookup_cons]

theorem read?_listedJoggings (js : List Jogging) :
    read? (Jogging.listingJson js) = some ⟨[], js.map Jogging.asListed⟩ := by
  apply read?_ofMembers
  case hplain => simp [Json.Plain, Json.allPlain_map Jogging.plain_listingEntry]
  case hfields | hnames => simp
  case husers => simp [Json.optional, List.lookup_cons]
  case hjoggings => simp [Json.optional, Json.list?_map Jogging.ofJson?_listingEntry]

/-- **Listings are read back.**  A listing of users in JSON is a dataset with these users and
without sessions, and a listing of sessions is a dataset with these sessions and without users, all
in their order.  A session has lost its version and the fraction of its second, and nothing else: a
leap second is still one. -/
theorem read?_listingJson :
    (∀ us, read? (User.listingJson us) = some ⟨us, []⟩) ∧
    (∀ js, read? (Jogging.listingJson js) = some ⟨[], js.map Jogging.asListed⟩) ∧
    ∀ t : TimeOfDay, t.wholeSecond.isLeapSecond = t.isLeapSecond :=
  ⟨read?_listedUsers, read?_listedJoggings, TimeOfDay.isLeapSecond_wholeSecond⟩

end Dataset

end RecordFilter
