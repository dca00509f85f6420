import Mathlib.Data.List.Infix
import InventoryApp.Login.Country
import InventoryApp.Login.VerificationCode

/-!
# The phone number and its country

The phone screen has a button and a label for the country, a field for the number
and a Next button.  The country is chosen from a list, with a search field over it;
the choice is also kept in `countryCode`, which is one for all screens and is where
a new screen starts from.

A `PhoneEntry` is the screen and the list, if they are there, with `countryCode`
and the numbers a code was asked for.  What UIKit adds: a row of the list has a
cell while it is on screen, and a cell is made when its row comes up or the list is
reloaded; a change that the field's delegate refuses is not made; a disabled button
is not tapped; and a list that was popped takes no events while it slides out.

`UnicodeRules` are what Unicode decides about texts: where Characters start, which
text is lowercase, and what is found in what.
-/

namespace InventoryApp

open Lib

structure UnicodeRules where
  breaks : Breaks
  lowercased : String → String
  contains : String → String → Bool

/-- What they are for ASCII texts, line feeds aside. -/
def UnicodeRules.ascii : UnicodeRules where
  breaks := fun _ _ => true
  lowercased text := String.ofList (text.toList.map Char.toLower)
  contains text part := decide (part.toList <:+: text.toList)

variable (rules : UnicodeRules)

/-! ### The list of countries -/

inductive AccessoryType
  | none
  | checkmark
  deriving DecidableEq, Repr

structure UITableViewCell where
  textLabel : String
  accessoryType : AccessoryType
  deriving DecidableEq, Repr

/-- `cells` has the cells of the rows on screen. -/
structure CountryCodeViewController where
  filteredCountries : List CallingCode := Country.countries
  searchText : String := ""
  cells : Nat → Option UITableViewCell := fun _ => none
  isPopped : Bool := false

namespace CountryCodeViewController

variable (vc : CountryCodeViewController) (countryCode : String)

/-- `tableView(_:cellForRowAt:)`, for a row that is there. -/
def cellForRowAt (country : CallingCode) : UITableViewCell where
  textLabel := country.name ++ (" " ++ country.dialCode)
  accessoryType := if countryCode = country.code then .checkmark else .none

/-- A row comes on screen. -/
def display (row : Nat) : CountryCodeViewController :=
  { vc with
    cells := Function.update vc.cells row
      (vc.filteredCountries[row]?.map (cellForRowAt countryCode)) }

/-- A row leaves the screen. -/
def endDisplaying (row : Nat) : CountryCodeViewController :=
  { vc with cells := Function.update vc.cells row none }

/-- `tableView.reloadData()`, and the rows on screen afterwards. -/
def reloadData (visible : List Nat) : CountryCodeViewController :=
  visible.foldl (fun vc row => vc.display countryCode row) { vc with cells := fun _ => none }

/-- `cellForRow(at:)?.accessoryType = accessoryType`. -/
def setAccessoryType (row : Nat) (accessoryType : AccessoryType) : CountryCodeViewController :=
  { vc with
    cells := Function.update vc.cells row ((vc.cells row).map ({ · with accessoryType })) }

/-- The loop runs over `0...filteredCountries.count`, one row too far. -/
def resetCheckmark : CountryCodeViewController :=
  (List.range (vc.filteredCountries.length + 1)).foldl
    (fun vc index => vc.setAccessoryType index .none) vc

/-- The cells of `tableView(_:didSelectRowAt:)`. -/
def didSelectRowAt (row : Nat) : CountryCodeViewController :=
  vc.resetCheckmark.setAccessoryType row .checkmark

/-- The countries a search finds. -/
def found (searchText : String) : List CallingCode :=
  if searchText.isEmpty then Country.countries
  else Country.countries.filter fun data =>
    rules.contains (rules.lowercased data.name) (rules.lowercased searchText) ||
      rules.contains (rules.lowercased data.dialCode) (rules.lowercased searchText)

/-- `searchBar(_:textDidChange:)`. -/
def textDidChange (searchText : String) (visible : List Nat) : CountryCodeViewController :=
  { vc with searchText, filteredCountries := found rules searchText }.reloadData countryCode visible

end CountryCodeViewController

/-! ### The phone screen -/

structure PhoneNumberViewController where
  selectCountry : String := "United States"
  countryCode : String := "+1"
  phoneNumber : Text := []
  rightBarButtonItem : Option UIBarButtonItem := none
  isVerificationSent : Bool := false

namespace PhoneNumberViewController

variable (vc : PhoneNumberViewController)

def setCountry (countryCode : String) : PhoneNumberViewController :=
  Country.countries.foldl (fun vc country =>
    if country.code = countryCode then
      { vc with countryCode := country.dialCode, selectCountry := country.name }
    else vc) vc

def configureNavigationBar : PhoneNumberViewController :=
  { vc with rightBarButtonItem := some { title := "Next", isEnabled := false } }

def viewDidLoad (countryCode : String) : PhoneNumberViewController :=
  vc.configureNavigationBar.setCountry countryCode

def setRightBarButtonStatus : PhoneNumberViewController :=
  { vc with
    rightBarButtonItem := vc.rightBarButtonItem.map ({ · with
      isEnabled := !(characterCount rules.breaks vc.phoneNumber < 9 || vc.countryCode = " - ") }) }

/-- `countryPicker(_:didSelectCountryWithName:code:dialCode:)`, without the pop. -/
def didSelectCountryWithName (name dialCode : String) : PhoneNumberViewController :=
  { vc with selectCountry := name, countryCode := dialCode }.setRightBarButtonStatus rules

/-- `textField(_:shouldChangeCharactersIn:replacementString:)`. -/
def shouldChangeCharactersIn (range : NSRange) (string : Text) : Bool :=
  let newLength : Int := utf16Length vc.phoneNumber + utf16Length string - range.length
  newLength ≤ 25

/-- The user changes a range of the number. -/
def changeCharacters (range : NSRange) (string : Text) : PhoneNumberViewController :=
  match rangeIn rules.breaks vc.phoneNumber range with
  | none => vc
  | some bounds =>
    if vc.shouldChangeCharactersIn range string then
      { vc with
        phoneNumber := replacing vc.phoneNumber bounds string }.setRightBarButtonStatus rules
    else vc

/-- The number of `sendSMSConfirmation`. -/
def number : String := vc.countryCode ++ String.ofList vc.phoneNumber

/-- The number that a tap on Next asks for a code for, if it does. -/
def rightBarButtonDidTap (reachable : Bool) : Option String :=
  if !reachable then none
  else if !vc.isVerificationSent then some vc.number
  else none

end PhoneNumberViewController

/-! ### Events -/

structure PhoneEntry where
  countryCode : String
  phoneNumberViewController : Option PhoneNumberViewController := none
  picker : Option CountryCodeViewController := none
  startedAuths : List String := []

/-- `back` leaves the list, or the phone screen where there is no list; `select` is
`didSelectRowAt`. -/
inductive EntryEvent
  | phoneButtonTapped
  | change (range : NSRange) (string : Text)
  | next (reachable : Bool)
  | openCountryCodesList (visible : List Nat)
  | display (row : Nat)
  | endDisplaying (row : Nat)
  | search (searchText : String) (visible : List Nat)
  | select (row : Nat)
  | back

/-- An event on the list. -/
def PhoneEntry.onPicker (s : PhoneEntry)
    (f : CountryCodeViewController → CountryCodeViewController) : PhoneEntry :=
  match s.picker with
  | some picker => if picker.isPopped then s else { s with picker := some (f picker) }
  | none => s

/-- The row that is selected is one of the list's. -/
def PhoneEntry.select (s : PhoneEntry) (row : Nat) : PhoneEntry :=
  match s.picker with
  | some picker =>
    match picker.filteredCountries[row]? with
    | some country =>
      if picker.isPopped then s
      else { s with
        countryCode := country.code
        picker := some { picker.didSelectRowAt row with isPopped := true }
        phoneNumberViewController := s.phoneNumberViewController.map
          (·.didSelectCountryWithName rules country.name country.dialCode) }
    | none => s
  | none => s

def EntryEvent.handle (s : PhoneEntry) : EntryEvent → PhoneEntry
  | phoneButtonTapped =>
    match s.phoneNumberViewController with
    | some _ => s
    | none =>
      { s with
        phoneNumberViewController := some (PhoneNumberViewController.viewDidLoad {} s.countryCode) }
  | change range string =>
    match s.phoneNumberViewController, s.picker with
    | some vc, none =>
      { s with phoneNumberViewController := some (vc.changeCharacters rules range string) }
    | _, _ => s
  | next reachable =>
    match s.phoneNumberViewController, s.picker with
    | some vc, none =>
      if vc.rightBarButtonItem.any (·.isEnabled) then
        { s with startedAuths := s.startedAuths ++ (vc.rightBarButtonDidTap reachable).toList }
      else s
    | _, _ => s
  | openCountryCodesList visible =>
    match s.phoneNumberViewController, s.picker with
    | some _, none =>
      { s with
        picker := some (CountryCodeViewController.reloadData {} s.countryCode visible) }
    | _, _ => s
  | display row => s.onPicker (·.display s.countryCode row)
  | endDisplaying row => s.onPicker (·.endDisplaying row)
  | search searchText visible => s.onPicker (·.textDidChange rules s.countryCode searchText visible)
  | select row => s.select rules row
  | back =>
    match s.picker with
    | some _ => { s with picker := none }
    | none => { s with phoneNumberViewController := none }

/-- One event. -/
def EntryStep (s : PhoneEntry) (ev : EntryEvent) (s' : PhoneEntry) : Prop :=
  s' = ev.handle rules s

theorem entryStep_handle (s : PhoneEntry) (ev : EntryEvent) :
    EntryStep rules s ev (ev.handle rules s) := rfl

/-! ### What is kept -/

/-- The country the phone screen should show for a code. -/
def shownFor (countryCode : String) (name dialCode : String) : Prop :=
  (∃ country ∈ Country.countries,
    country.code = countryCode ∧ name = country.name ∧ dialCode = country.dialCode) ∨
  ((∀ country ∈ Country.countries, country.code ≠ countryCode) ∧
    name = "United States" ∧ dialCode = "+1")

/-- A screen of the country with that code, with a number that fits and a Next
button that is right. -/
structure PhoneNumberViewController.Ready (rules : UnicodeRules) (countryCode : String)
    (vc : PhoneNumberViewController) : Prop where
  shown : shownFor countryCode vc.selectCountry vc.countryCode
  fits : utf16Length vc.phoneNumber ≤ 25
  next : ∃ item, vc.rightBarButtonItem = some item ∧
    (item.isEnabled = true ↔ 9 ≤ characterCount rules.breaks vc.phoneNumber)

/-- The dial code of a country of the list with nine Characters or more after it. -/
def Dialable (rules : UnicodeRules) (number : String) : Prop :=
  ∃ country ∈ Country.countries, ∃ phoneNumber,
    number = country.dialCode ++ String.ofList phoneNumber ∧
      9 ≤ characterCount rules.breaks phoneNumber ∧ utf16Length phoneNumber ≤ 25

/-- A list of what was searched for, with a checkmark at the country with that code. -/
structure CountryCodeViewController.InStep (rules : UnicodeRules) (countryCode : String)
    (vc : CountryCodeViewController) : Prop where
  filtered : vc.filteredCountries = found rules vc.searchText
  cells : ∀ row cell, vc.cells row = some cell → ∃ country,
    vc.filteredCountries[row]? = some country ∧
      cell.textLabel = country.name ++ (" " ++ country.dialCode) ∧
      (cell.accessoryType = .checkmark ↔ country.code = countryCode)

namespace CountryCodeViewController

variable {rules} {vc : CountryCodeViewController} {countryCode : String}

theorem cells_display (row : Nat) : (vc.display countryCode row).cells =
    Function.update vc.cells row (vc.filteredCountries[row]?.map (cellForRowAt countryCode)) := rfl

theorem cells_endDisplaying (row : Nat) :
    (vc.endDisplaying row).cells = Function.update vc.cells row none := rfl

theorem cells_setAccessoryType (row : Nat) (accessoryType : AccessoryType) :
    (vc.setAccessoryType row accessoryType).cells =
      Function.update vc.cells row ((vc.cells row).map ({ · with accessoryType })) := rfl

theorem InStep.display (h : vc.InStep rules countryCode) (row : Nat) :
    (vc.display countryCode row).InStep rules countryCode where
  filtered := h.filtered
  cells := by
    intro i cell hcell
    rw [cells_display] at hcell
    by_cases hi : i = row
    · subst hi
      rw [Function.update_self] at hcell
      obtain ⟨country, hrow, rfl⟩ := Option.map_eq_some_iff.mp hcell
      refine ⟨country, hrow, rfl, ?_⟩
      rw [cellForRowAt]
      by_cases hcode : countryCode = country.code
      · simp [hcode]
      · simp [hcode, Ne.symm hcode]
    · rw [Function.update_of_ne hi] at hcell
      exact h.cells i cell hcell

theorem InStep.endDisplaying (h : vc.InStep rules countryCode) (row : Nat) :
    (vc.endDisplaying row).InStep rules countryCode where
  filtered := h.filtered
  cells := by
    intro i cell hcell
    rw [cells_endDisplaying] at hcell
    by_cases hi : i = row
    · subst hi
      rw [Function.update_self] at hcell
      cases hcell
    · rw [Function.update_of_ne hi] at hcell
      exact h.cells i cell hcell

/-- Reloaded rows are in step, whatever was on screen before. -/
theorem inStep_reloadData (h : vc.filteredCountries = found rules vc.searchText)
    (visible : List Nat) : (vc.reloadData countryCode visible).InStep rules countryCode := by
  suffices ∀ vc : CountryCodeViewController, vc.InStep rules countryCode →
      (visible.foldl (fun vc row => vc.display countryCode row) vc).InStep rules countryCode by
    refine this _ ⟨h, ?_⟩
    intro _ _ hcell
    cases hcell
  induction visible with
  | nil => exact fun _ h => h
  | cons row visible ih => exact fun vc h => ih _ (h.display row)

/-! ### Selecting a row -/

/-- What a loop that takes away checkmarks leaves of a list. -/
theorem foldl_setAccessoryType (rows : List Nat) (vc : CountryCodeViewController) :
    (rows.foldl (fun vc index => vc.setAccessoryType index .none) vc).filteredCountries =
        vc.filteredCountries ∧
      (rows.foldl (fun vc index => vc.setAccessoryType index .none) vc).searchText =
        vc.searchText ∧
      ∀ row, (rows.foldl (fun vc index => vc.setAccessoryType index .none) vc).cells row =
        if row ∈ rows then (vc.cells row).map ({ · with accessoryType := .none })
        else vc.cells row := by
  induction rows generalizing vc with
  | nil => exact ⟨rfl, rfl, fun _ => rfl⟩
  | cons index rows ih =>
    obtain ⟨hfiltered, hsearch, hcells⟩ := ih (vc.setAccessoryType index .none)
    refine ⟨hfiltered, hsearch, ?_⟩
    intro row
    rw [List.foldl_cons, hcells, cells_setAccessoryType]
    by_cases hrow : row = index
    · subst hrow
      rw [Function.update_self, if_pos List.mem_cons_self, Option.map_map]
      split <;> rfl
    · rw [Function.update_of_ne hrow]
      simp [hrow]

/-- After `resetCheckmark` no row on screen has a checkmark. -/
theorem InStep.resetCheckmark (h : vc.InStep rules countryCode) {row : Nat}
    {cell : UITableViewCell} (hcell : vc.resetCheckmark.cells row = some cell) :
    ∃ country, vc.filteredCountries[row]? = some country ∧
      cell.textLabel = country.name ++ (" " ++ country.dialCode) ∧
      cell.accessoryType = .none := by
  obtain ⟨_, _, hcells⟩ :=
    foldl_setAccessoryType (List.range (vc.filteredCountries.length + 1)) vc
  rw [CountryCodeViewController.resetCheckmark, hcells] at hcell
  by_cases hrow : row ∈ List.range (vc.filteredCountries.length + 1)
  · rw [if_pos hrow] at hcell
    obtain ⟨cell', hcell', rfl⟩ := Option.map_eq_some_iff.mp hcell
    obtain ⟨country, hcountry, htext, _⟩ := h.cells row cell' hcell'
    exact ⟨country, hcountry, htext, rfl⟩
  · -- a row on screen is one of the list's
    rw [if_neg hrow] at hcell
    obtain ⟨country, hcountry, _⟩ := h.cells row cell hcell
    obtain ⟨hlt, _⟩ := List.getElem?_eq_some_iff.mp hcountry
    exact absurd (List.mem_range.mpr (by omega)) hrow

theorem InStep.sublist (h : vc.InStep rules countryCode) :
    vc.filteredCountries.Sublist Country.countries := by
  rw [h.filtered, found]
  split
  · exact List.Sublist.refl _
  · exact List.filter_sublist

/-- **The checkmark moves to the row that is selected.** -/
theorem InStep.didSelectRowAt (h : vc.InStep rules countryCode) {row : Nat}
    {country : CallingCode} (hrow : vc.filteredCountries[row]? = some country) :
    (vc.didSelectRowAt row).InStep rules country.code := by
  obtain ⟨hfiltered, hsearch, _⟩ :=
    foldl_setAccessoryType (List.range (vc.filteredCountries.length + 1)) vc
  have hfiltered' : (vc.didSelectRowAt row).filteredCountries = vc.filteredCountries := hfiltered
  have hnodup : (vc.filteredCountries.map CallingCode.code).Nodup :=
    Country.nodup_codes.sublist (h.sublist.map _)
  refine ⟨?_, ?_⟩
  · refine hfiltered'.trans (h.filtered.trans ?_)
    exact congrArg (found rules) hsearch.symm
  · intro i cell hcell
    rw [CountryCodeViewController.didSelectRowAt, cells_setAccessoryType] at hcell
    rw [hfiltered']
    by_cases hi : i = row
    · subst hi
      rw [Function.update_self] at hcell
      obtain ⟨cell', hcell', rfl⟩ := Option.map_eq_some_iff.mp hcell
      obtain ⟨other, hother, htext, _⟩ := h.resetCheckmark hcell'
      obtain rfl := Option.some.inj (hrow.symm.trans hother)
      exact ⟨country, hrow, htext, iff_of_true rfl rfl⟩
    · rw [Function.update_of_ne hi] at hcell
      obtain ⟨other, hother, htext, hnone⟩ := h.resetCheckmark hcell
      refine ⟨other, hother, htext, iff_of_false ?_ ?_⟩
      · rw [hnone]
        exact AccessoryType.noConfusion
      · exact fun hcode => hi (eq_of_getElem?_of_key hnodup hother hrow hcode)

end CountryCodeViewController

namespace PhoneNumberViewController

variable {rules} {vc : PhoneNumberViewController} {code : String}

/-- `setCountry` shows the country with that code, or changes nothing. -/
theorem setCountry_cases (vc : PhoneNumberViewController) (code : String) :
    (∃ country ∈ Country.countries, country.code = code ∧ vc.setCountry code =
      { vc with countryCode := country.dialCode, selectCountry := country.name }) ∨
    ((∀ country ∈ Country.countries, country.code ≠ code) ∧ vc.setCountry code = vc) := by
  by_cases h : ∃ country ∈ Country.countries, country.code = code
  · obtain ⟨country, hmem, hcode⟩ := h
    exact Or.inl ⟨country, hmem, hcode, foldl_of_mem Country.nodup_codes hmem hcode vc⟩
  · have hne : ∀ country ∈ Country.countries, country.code ≠ code :=
      fun country hmem hcode => h ⟨country, hmem, hcode⟩
    exact Or.inr ⟨hne, foldl_of_forall_ne hne vc⟩

theorem dialCode_ne_of_shownFor {name dialCode : String} (h : shownFor code name dialCode) :
    dialCode ≠ " - " := by
  rcases h with ⟨country, hmem, _, _, rfl⟩ | ⟨_, _, rfl⟩
  · exact Country.dialCode_ne country hmem
  · decide

/-- What is shown is a country of the list. -/
theorem exists_of_shownFor {name dialCode : String} (h : shownFor code name dialCode) :
    ∃ country ∈ Country.countries, name = country.name ∧ dialCode = country.dialCode := by
  rcases h with ⟨country, hmem, _, hname, hdial⟩ | ⟨_, hname, hdial⟩
  · exact ⟨country, hmem, hname, hdial⟩
  · exact ⟨⟨"US", "+1", "United States"⟩, by decide, hname, hdial⟩

theorem ready_viewDidLoad (code : String) : (viewDidLoad {} code).Ready rules code := by
  have hnext : (false = true ↔ 9 ≤ characterCount rules.breaks []) :=
    iff_of_false Bool.false_ne_true (Nat.not_succ_le_zero 8)
  rcases setCountry_cases (configureNavigationBar {}) code with ⟨country, hmem, hcode, heq⟩ |
    ⟨hne, heq⟩
  · rw [viewDidLoad, heq]
    exact ⟨Or.inl ⟨country, hmem, hcode, rfl, rfl⟩, Nat.zero_le 25, _, rfl, hnext⟩
  · rw [viewDidLoad, heq]
    exact ⟨Or.inr ⟨hne, rfl, rfl⟩, Nat.zero_le 25, _, rfl, hnext⟩

/-- `setRightBarButtonStatus` puts a screen right. -/
theorem ready_setRightBarButtonStatus (hshown : shownFor code vc.selectCountry vc.countryCode)
    (hfits : utf16Length vc.phoneNumber ≤ 25) {item : UIBarButtonItem}
    (hitem : vc.rightBarButtonItem = some item) :
    (vc.setRightBarButtonStatus rules).Ready rules code := by
  refine ⟨hshown, hfits, _, congrArg (Option.map _) hitem, ?_⟩
  have hdial := dialCode_ne_of_shownFor hshown
  show (!(decide (characterCount rules.breaks vc.phoneNumber < 9) ||
    decide (vc.countryCode = " - "))) = true ↔ 9 ≤ characterCount rules.breaks vc.phoneNumber
  rw [decide_eq_false hdial, Bool.or_false, Bool.not_eq_true', decide_eq_false_iff_not, not_lt]

theorem Ready.changeCharacters (h : vc.Ready rules code) (range : NSRange) (string : Text) :
    (vc.changeCharacters rules range string).Ready rules code := by
  rw [PhoneNumberViewController.changeCharacters]
  cases hrange : rangeIn rules.breaks vc.phoneNumber range with
  | none => exact h
  | some bounds =>
    have hlength := utf16Length_replacing rules.breaks hrange string
    by_cases hallowed : vc.shouldChangeCharactersIn range string = true
    · have hnew : (utf16Length vc.phoneNumber + utf16Length string - range.length : Int) ≤ 25 :=
        of_decide_eq_true hallowed
      obtain ⟨item, hitem, _⟩ := h.next
      simp only [hallowed, if_true]
      exact ready_setRightBarButtonStatus h.shown (by
        show utf16Length (replacing vc.phoneNumber bounds string) ≤ 25
        omega) hitem
    · simp only [hallowed]
      exact h

/-- With Next enabled, the number is one to dial. -/
theorem Ready.dialable (h : vc.Ready rules code)
    (henabled : vc.rightBarButtonItem.any (·.isEnabled) = true) : Dialable rules vc.number := by
  obtain ⟨hshown, hfits, item, hitem, hnext⟩ := h
  obtain ⟨country, hmem, _, hdial⟩ := exists_of_shownFor hshown
  rw [hitem] at henabled
  refine ⟨country, hmem, vc.phoneNumber, ?_, hnext.mp henabled, hfits⟩
  rw [PhoneNumberViewController.number, hdial]

theorem Ready.didSelectCountryWithName (h : vc.Ready rules code) {country : CallingCode}
    (hmem : country ∈ Country.countries) :
    (vc.didSelectCountryWithName rules country.name country.dialCode).Ready rules
      country.code := by
  obtain ⟨item, hitem, _⟩ := h.next
  exact ready_setRightBarButtonStatus (Or.inl ⟨country, hmem, rfl, rfl, rfl⟩) h.fits hitem

end PhoneNumberViewController

/-! ### Every run -/

/-- A screen and a list that are right, and numbers of the right form. -/
structure PhoneEntry.InStep (rules : UnicodeRules) (s : PhoneEntry) : Prop where
  screen : ∀ vc, s.phoneNumberViewController = some vc → vc.Ready rules s.countryCode
  picker : ∀ vc, s.picker = some vc → vc.InStep rules s.countryCode
  startedAuths : ∀ number ∈ s.startedAuths, Dialable rules number

namespace PhoneEntry.InStep

variable {rules} {s s' : PhoneEntry}

theorem init (region : String) : PhoneEntry.InStep rules { countryCode := region } where
  screen _ h := nomatch h
  picker _ h := nomatch h
  startedAuths _ h := absurd h List.not_mem_nil

theorem onPicker (h : s.InStep rules)
    {f : CountryCodeViewController → CountryCodeViewController}
    (hf : ∀ vc : CountryCodeViewController, vc.InStep rules s.countryCode →
      (f vc).InStep rules s.countryCode) : (s.onPicker f).InStep rules := by
  rw [PhoneEntry.onPicker]
  cases hpicker : s.picker with
  | none => exact h
  | some picker =>
    by_cases hpopped : picker.isPopped = true
    · simp only [hpopped, if_true]
      exact h
    · simp only [hpopped]
      refine ⟨h.screen, ?_, h.startedAuths⟩
      intro vc hvc
      obtain rfl := Option.some.inj hvc
      exact hf picker (h.picker picker hpicker)

theorem select (h : s.InStep rules) (row : Nat) : (s.select rules row).InStep rules := by
  rw [PhoneEntry.select]
  cases hpicker : s.picker with
  | none => exact h
  | some picker =>
    have hlist := h.picker picker hpicker
    cases hrow : picker.filteredCountries[row]? with
    | none => simp only [hrow]; exact h
    | some country =>
      simp only [hrow]
      by_cases hpopped : picker.isPopped = true
      · rw [if_pos hpopped]
        exact h
      · rw [if_neg hpopped]
        refine ⟨?_, ?_, h.startedAuths⟩
        · intro vc hvc
          obtain ⟨vc', hvc', rfl⟩ := Option.map_eq_some_iff.mp hvc
          refine (h.screen vc' hvc').didSelectCountryWithName (hlist.sublist.subset ?_)
          exact List.mem_of_getElem? hrow
        · intro vc hvc
          obtain rfl := Option.some.inj hvc
          obtain ⟨hfiltered, hcells⟩ := hlist.didSelectRowAt hrow
          exact ⟨hfiltered, hcells⟩

/-- A number that Next sends is the dial code of a country with enough Characters after it. -/
theorem next (h : s.InStep rules) {vc : PhoneNumberViewController}
    (hvc : s.phoneNumberViewController = some vc)
    (henabled : vc.rightBarButtonItem.any (·.isEnabled) = true) (reachable : Bool) :
    PhoneEntry.InStep rules
      { s with startedAuths := s.startedAuths ++ (vc.rightBarButtonDidTap reachable).toList } := by
  refine ⟨h.screen, h.picker, ?_⟩
  intro number hnumber
  rcases List.mem_append.mp hnumber with hold | hnew
  · exact h.startedAuths number hold
  · have hsent : number = vc.number := by
      rw [Option.mem_toList, PhoneNumberViewController.rightBarButtonDidTap] at hnew
      split at hnew
      · cases hnew
      · split at hnew
        · exact (Option.some.inj hnew).symm
        · cases hnew
    rw [hsent]
    exact (h.screen vc hvc).dialable henabled

/-- **Every event keeps the screen, the list and the country in step.** -/
theorem step (h : s.InStep rules) {ev : EntryEvent} (hstep : EntryStep rules s ev s') :
    s'.InStep rules := by
  rw [EntryStep] at hstep
  subst hstep
  cases ev with
  | phoneButtonTapped =>
    rw [EntryEvent.handle]
    cases hvc : s.phoneNumberViewController with
    | some _ => exact h
    | none =>
      refine ⟨?_, h.picker, h.startedAuths⟩
      intro vc hvc'
      obtain rfl := Option.some.inj hvc'
      exact PhoneNumberViewController.ready_viewDidLoad s.countryCode
  | change range string =>
    cases hvc : s.phoneNumberViewController with
    | none => simpa only [EntryEvent.handle, hvc] using h
    | some vc =>
      cases hpicker : s.picker with
      | some _ => simpa only [EntryEvent.handle, hvc, hpicker] using h
      | none =>
        have heq : (EntryEvent.change range string).handle rules s = { s with
            phoneNumberViewController := some (vc.changeCharacters rules range string) } := by
          simp only [EntryEvent.handle, hvc, hpicker]
        rw [heq]
        refine ⟨?_, h.picker, h.startedAuths⟩
        intro vc' hvc'
        obtain rfl := Option.some.inj hvc'
        exact (h.screen vc hvc).changeCharacters range string
  | next reachable =>
    cases hvc : s.phoneNumberViewController with
    | none => simpa only [EntryEvent.handle, hvc] using h
    | some vc =>
      cases hpicker : s.picker with
      | some _ => simpa only [EntryEvent.handle, hvc, hpicker] using h
      | none =>
        by_cases henabled : vc.rightBarButtonItem.any (·.isEnabled) = true
        · have heq : (EntryEvent.next reachable).handle rules s = { s with
              startedAuths := s.startedAuths ++ (vc.rightBarButtonDidTap reachable).toList } := by
            simp only [EntryEvent.handle, hvc, hpicker, henabled, if_true]
          rw [heq]
          exact h.next hvc henabled reachable
        · simp only [EntryEvent.handle, hvc, hpicker]
          rw [if_neg henabled]
          exact h
  | openCountryCodesList visible =>
    cases hvc : s.phoneNumberViewController with
    | none => simpa only [EntryEvent.handle, hvc] using h
    | some _ =>
      cases hpicker : s.picker with
      | some _ => simpa only [EntryEvent.handle, hvc, hpicker] using h
      | none =>
        have heq : (EntryEvent.openCountryCodesList visible).handle rules s = { s with
            picker := some (CountryCodeViewController.reloadData {} s.countryCode visible) } := by
          simp only [EntryEvent.handle, hvc, hpicker]
        rw [heq]
        refine ⟨h.screen, ?_, h.startedAuths⟩
        intro vc hlist
        obtain rfl := Option.some.inj hlist
        exact CountryCodeViewController.inStep_reloadData rfl visible
  | display row => exact h.onPicker fun vc hvc => hvc.display row
  | endDisplaying row => exact h.onPicker fun vc hvc => hvc.endDisplaying row
  | search searchText visible =>
    exact h.onPicker fun vc _ => CountryCodeViewController.inStep_reloadData rfl visible
  | select row => exact h.select row
  | back =>
    rw [EntryEvent.handle]
    cases hpicker : s.picker with
    | some _ =>
      refine ⟨h.screen, ?_, h.startedAuths⟩
      intro vc hvc
      cases hvc
    | none =>
      refine ⟨?_, fun vc hvc => h.picker vc (hpicker.trans hvc), h.startedAuths⟩
      intro vc hvc
      cases hvc

end PhoneEntry.InStep

section Choice

variable {rules} {s s' : PhoneEntry}

theorem PhoneEntry.countryCode_onPicker
    (f : CountryCodeViewController → CountryCodeViewController) :
    (s.onPicker f).countryCode = s.countryCode := by
  rw [PhoneEntry.onPicker]
  split
  · split <;> rfl
  · rfl

/-- Only a selection changes the country. -/
theorem countryCode_of_step {ev : EntryEvent} (hev : ∀ row, ev ≠ .select row)
    (hstep : EntryStep rules s ev s') : s'.countryCode = s.countryCode := by
  rw [EntryStep] at hstep
  subst hstep
  cases ev with
  | phoneButtonTapped => rw [EntryEvent.handle]; split <;> rfl
  | change range string => rw [EntryEvent.handle]; split <;> rfl
  | next reachable =>
    rw [EntryEvent.handle]
    split
    · split <;> rfl
    · rfl
  | openCountryCodesList visible => rw [EntryEvent.handle]; split <;> rfl
  | display row => exact PhoneEntry.countryCode_onPicker _
  | endDisplaying row => exact PhoneEntry.countryCode_onPicker _
  | search searchText visible => exact PhoneEntry.countryCode_onPicker _
  | select row => exact absurd rfl (hev row)
  | back => rw [EntryEvent.handle]; split <;> rfl

theorem countryCode_of_run {evs : List EntryEvent} (hevs : ∀ ev ∈ evs, ∀ row, ev ≠ .select row)
    (hrun : Run (EntryStep rules) s evs s') : s'.countryCode = s.countryCode := by
  induction hrun with
  | nil => rfl
  | cons hstep _ ih =>
    rw [List.forall_mem_cons] at hevs
    exact (ih hevs.2).trans (countryCode_of_step hevs.1 hstep)

theorem countryCode_select {row : Nat} {picker : CountryCodeViewController}
    {country : CallingCode}
    (hpicker : s.picker = some picker) (hpopped : picker.isPopped = false)
    (hrow : picker.filteredCountries[row]? = some country) :
    (s.select rules row).countryCode = country.code := by
  simp only [PhoneEntry.select, hpicker, hrow, hpopped]
  rfl

/-- The country of a code is one. -/
theorem shownFor_of_mem {country : CallingCode} (hmem : country ∈ Country.countries)
    {name dialCode : String} (h : shownFor country.code name dialCode) :
    name = country.name ∧ dialCode = country.dialCode := by
  rcases h with ⟨other, hother, hcode, hname, hdial⟩ | ⟨hne, _⟩
  · obtain rfl := List.inj_on_of_nodup_map Country.nodup_codes hother hmem hcode
    exact ⟨hname, hdial⟩
  · exact absurd rfl (hne country hmem)

/-- **The phone screen, the list and the country stay in step.**  However screens
and lists come and go, whatever is typed, pasted, searched for, scrolled to and
selected: the button and the label of the screen show the country with the code
that was chosen, or the United States if the region has no entry; the number has 25
UTF-16 units at most, and Next is enabled exactly from nine Characters on; the list
has the countries that were searched for, each row on screen shows its country, and
a checkmark is at the chosen one only.  Every number a code was asked for is the
dial code of a country of the list with nine Characters or more after it.  And a
country that is selected stays, also for new screens, until the next selection. -/
theorem phoneEntry_inStep {region : String} {evs : List EntryEvent}
    (hrun : Run (EntryStep rules) { countryCode := region } evs s) :
    s.InStep rules ∧
    ∀ row picker country rest t, s.picker = some picker → picker.isPopped = false →
      picker.filteredCountries[row]? = some country → (∀ ev ∈ rest, ∀ row, ev ≠ .select row) →
      Run (EntryStep rules) s (.select row :: rest) t →
      t.countryCode = country.code ∧ ∀ vc, t.phoneNumberViewController = some vc →
        vc.selectCountry = country.name ∧ vc.countryCode = country.dialCode := by
  have hs := hrun.invariant (PhoneEntry.InStep rules) (fun _ _ _ h hstep => h.step hstep)
    (.init region)
  refine ⟨hs, ?_⟩
  intro row picker country rest t hpicker hpopped hrow hrest hrun'
  have ht := hrun'.invariant (PhoneEntry.InStep rules) (fun _ _ _ h hstep => h.step hstep) hs
  have hcode : t.countryCode = country.code := by
    obtain ⟨m, hselect, hrest'⟩ := Run.cons_iff.mp hrun'
    rw [countryCode_of_run hrest hrest', show m = s.select rules row from hselect]
    exact countryCode_select hpicker hpopped hrow
  refine ⟨hcode, ?_⟩
  intro vc hvc
  have hmem := (hs.picker picker hpicker).sublist.subset (List.mem_of_getElem? hrow)
  have hshown := (ht.screen vc hvc).shown
  rw [hcode] at hshown
  exact shownFor_of_mem hmem hshown

/-- A country is searched for and selected, and a number of nine digits is sent. -/
theorem phoneEntry_inStep_searched :
    let evs : List EntryEvent := [.phoneButtonTapped, .openCountryCodesList [0, 1, 2],
      .search "ALB" [0], .select 0, .back, .change ⟨0, 0⟩ "123456789".toList, .next true]
    ∃ s, Run (EntryStep .ascii) { countryCode := "AX" } evs s ∧ s.InStep .ascii ∧
      s.countryCode = "AL" ∧ s.startedAuths = ["+355123456789"] := by
  intro evs
  have hrun : Run (EntryStep .ascii) { countryCode := "AX" } evs _ :=
    Run.of_foldl (fun s ev => entryStep_handle .ascii s ev) _ evs
  exact ⟨_, hrun, (phoneEntry_inStep hrun).1, by decide +kernel, by decide +kernel⟩

end Choice

end InventoryApp
