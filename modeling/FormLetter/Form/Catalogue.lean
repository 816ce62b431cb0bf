import FormLetter.Form.Rule

/-!
# The catalogue of canonical tags

The rules that fill the tags of the agreements for which templates are written: the names, numbers,
addresses, contacts and signatories of the two parties, the duties, and the terms.

* `catalogue`: the rules, in the order in which they are applied.
-/

namespace FormLetter

/-- A rule of the catalogue, whose priority is given in tenths. -/
def catalogueRule (tag : String) (tenths : Nat) (keywords excluded : List String) : Rule where
  tag := tag.toList
  keywords := keywords.map String.toList
  excluded := excluded.map String.toList
  priority := .ofDecimal false tenths (-1)

/-- The rules of the canonical tags. -/
def catalogue : List Rule :=
  [
    catalogueRule "USR_Name" 10 ["legal", "name", "business", "company"]
      ["client", "counterparty", "pt2", "contact", "signatory"],
    catalogueRule "USR_ABN" 12
      ["abn", "business", "registration", "number", "acn", "abnlookup",
        "australian business number"]
      ["client", "counterparty", "pt2", "second", "other"],
    catalogueRule "USR_ABV" 9 ["abbreviated", "abbreviation", "short", "business"]
      ["client", "counterparty", "pt2"],
    catalogueRule "USR_Business" 10 ["business", "trading", "company", "corporate"]
      ["client", "counterparty", "pt2"],
    catalogueRule "USR_Address" 8 ["address", "location", "business", "company"]
      ["client", "counterparty", "pt2"],
    catalogueRule "USR_URL" 7 ["website", "url", "web", "site", "business"]
      ["client", "counterparty", "pt2"],
    catalogueRule "USR_Notice" 7 ["notice", "period", "business"] ["client", "counterparty", "pt2"],
    catalogueRule "USR_Contact_FN" 8 ["contact", "first", "name", "business"]
      ["client", "counterparty", "pt2", "signatory"],
    catalogueRule "USR_Contact_LN" 8 ["contact", "last", "name", "business"]
      ["client", "counterparty", "pt2", "signatory"],
    catalogueRule "USR_Contact_Role" 7 ["contact", "role", "position", "business"]
      ["client", "counterparty", "pt2", "signatory"],
    catalogueRule "USR_Contact_Email" 8 ["contact", "email", "business"]
      ["client", "counterparty", "pt2", "signatory"],
    catalogueRule "USR_Signatory_FN" 8 ["signatory", "first", "name", "business"]
      ["client", "counterparty", "pt2", "contact"],
    catalogueRule "USR_Signatory_LN" 8 ["signatory", "last", "name", "business"]
      ["client", "counterparty", "pt2", "contact"],
    catalogueRule "USR_Signatory_Role" 7 ["signatory", "role", "position", "business"]
      ["client", "counterparty", "pt2", "contact"],
    catalogueRule "USR_Sign_Fir" 6 ["signatory", "signature", "role", "business"]
      ["client", "counterparty", "pt2"],
    catalogueRule "USR_Bnk" 7 ["bank", "banking", "details", "business"]
      ["client", "counterparty", "pt2"],
    catalogueRule "USR_Acct_Name" 7 ["account", "name", "bank", "business"]
      ["client", "counterparty", "pt2"],
    catalogueRule "USR_Acct_BSB" 7 ["bsb", "bank", "account", "business"]
      ["client", "counterparty", "pt2"],
    catalogueRule "USR_Acct_Nmr" 7 ["account", "number", "bank", "business"]
      ["client", "counterparty", "pt2"],
    catalogueRule "PT2_Name" 10 ["legal", "name", "client", "counterparty"]
      ["your", "usr", "business", "contact", "signatory"],
    catalogueRule "PT2_ABN" 12
      ["abn", "client", "counterparty", "registration", "number", "acn", "abnlookup",
        "australian business number"]
      ["your", "usr", "business", "first", "primary"],
    catalogueRule "PT2_ABV" 9 ["abbreviated", "abbreviation", "short", "client", "counterparty"]
      ["your", "usr", "business"],
    catalogueRule "PT2_Business" 10
      ["business", "trading", "company", "corporate", "client", "counterparty"]
      ["your", "usr"],
    catalogueRule "PT2_Address" 8 ["address", "location", "client", "counterparty"]
      ["your", "usr", "business"],
    catalogueRule "PT2_Notice" 7 ["notice", "period", "client", "counterparty"]
      ["your", "usr", "business"],
    catalogueRule "PT2_Contact_FN" 8 ["contact", "first", "name", "client", "counterparty"]
      ["your", "usr", "business", "signatory"],
    catalogueRule "PT2_Contact_LN" 8 ["contact", "last", "name", "client", "counterparty"]
      ["your", "usr", "business", "signatory"],
    catalogueRule "PT2_Contact_Role" 7 ["contact", "role", "position", "client", "counterparty"]
      ["your", "usr", "business", "signatory"],
    catalogueRule "PT2_Contact_Email" 8 ["contact", "email", "client", "counterparty"]
      ["your", "usr", "business", "signatory"],
    catalogueRule "PT2_Signatory_FN" 8 ["signatory", "first", "name", "client", "counterparty"]
      ["your", "usr", "business", "contact"],
    catalogueRule "PT2_Signatory_LN" 8 ["signatory", "last", "name", "client", "counterparty"]
      ["your", "usr", "business", "contact"],
    catalogueRule "PT2_Signatory_Role" 7 ["signatory", "role", "position", "client", "counterparty"]
      ["your", "usr", "business", "contact"],
    catalogueRule "PT2_Sign_Fir" 6 ["signatory", "signature", "role", "client", "counterparty"]
      ["your", "usr"],
    catalogueRule "Duty_1" 6 ["duty", "1", "first", "clause"] [],
    catalogueRule "Duty_2" 6 ["duty", "2", "second", "clause"] [],
    catalogueRule "Duty_3" 6 ["duty", "3", "third", "clause"] [],
    catalogueRule "Duty_4" 6 ["duty", "4", "fourth", "clause"] [],
    catalogueRule "Duty_5" 6 ["duty", "5", "fifth", "clause"] [],
    catalogueRule "Duty_6" 6 ["duty", "6", "sixth", "clause"] [],
    catalogueRule "Duty_7" 6 ["duty", "7", "seventh", "clause"] [],
    catalogueRule "Duty_8" 6 ["duty", "8", "eighth", "clause"] [],
    catalogueRule "Duty_9" 6 ["duty", "9", "ninth", "clause"] [],
    catalogueRule "Duty_10" 6 ["duty", "10", "tenth", "clause"] [],
    catalogueRule "REF_City" 7 ["city", "location"] [],
    catalogueRule "REF_State" 7 ["state", "territory", "province"] [],
    catalogueRule "Comc_date" 7 ["commencement", "start", "date", "begin"] [],
    catalogueRule "Inv_Due" 7 ["invoice", "due", "timeframe", "payment"] [],
    catalogueRule "Late_Interest" 7 ["late", "interest", "rate", "penalty"] [],
    catalogueRule "IP_Owner" 7 ["intellectual", "property", "ip", "owner"] [],
    catalogueRule "SW_DEV" 7 ["software", "development", "dev", "sw"] [],
    catalogueRule "terminate" 7 ["terminate", "termination", "convenience"] [],
    catalogueRule "Entry_id" 5 ["entry", "id", "identifier"] [],
    catalogueRule "ENTITY_TYPE" 6 ["entity", "type", "abnlookup"] [],
    catalogueRule "ABN_STATUS" 6 ["abn", "status", "abnlookup"] [],
    catalogueRule "GST_REGISTERED" 6 ["gst", "registered", "abnlookup"] [],
    catalogueRule "USR_Postcode" 7 ["postcode", "zip", "business"]
      ["client", "counterparty", "pt2"],
    catalogueRule "PT2_Postcode" 7 ["postcode", "zip", "client", "counterparty"]
      ["your", "usr", "business"],
    catalogueRule "USR_State" 7 ["state", "territory", "business"]
      ["client", "counterparty", "pt2"],
    catalogueRule "PT2_State" 7 ["state", "territory", "client", "counterparty"]
      ["your", "usr", "business"]
  ]

end FormLetter
