import InstanceLink.Der.Primitive

/-!
# Long names of attribute kinds

The kinds of attributes that have a long name in a trust store, by family. Every
other kind is written by its arcs.
-/

namespace InstanceLink.AttributeKind

/-- The kinds of the public directory. -/
def directoryNames : List (Nat × String) :=
  [(3, "commonName"), (4, "surname"), (5, "serialNumber"), (6, "countryName"),
    (7, "localityName"), (8, "stateOrProvinceName"), (9, "streetAddress"),
    (10, "organizationName"), (11, "organizationalUnitName"), (12, "title"), (13, "description"),
    (14, "searchGuide"), (15, "businessCategory"), (16, "postalAddress"), (17, "postalCode"),
    (18, "postOfficeBox"), (19, "physicalDeliveryOfficeName"), (20, "telephoneNumber"),
    (21, "telexNumber"), (22, "teletexTerminalIdentifier"), (23, "facsimileTelephoneNumber"),
    (24, "x121Address"), (25, "internationaliSDNNumber"), (26, "registeredAddress"),
    (27, "destinationIndicator"), (28, "preferredDeliveryMethod"), (29, "presentationAddress"),
    (30, "supportedApplicationContext"), (31, "member"), (32, "owner"), (33, "roleOccupant"),
    (34, "seeAlso"), (35, "userPassword"), (36, "userCertificate"), (37, "cACertificate"),
    (38, "authorityRevocationList"), (39, "certificateRevocationList"),
    (40, "crossCertificatePair"), (41, "name"), (42, "givenName"), (43, "initials"),
    (44, "generationQualifier"), (45, "x500UniqueIdentifier"), (46, "dnQualifier"),
    (47, "enhancedSearchGuide"), (48, "protocolInformation"), (49, "distinguishedName"),
    (50, "uniqueMember"), (51, "houseIdentifier"), (52, "supportedAlgorithms"),
    (53, "deltaRevocationList"), (54, "dmdName"), (65, "pseudonym"), (72, "role"),
    (97, "organizationIdentifier"), (98, "countryCode3c"), (99, "countryCode3n"),
    (100, "dnsName")]

/-- The kinds of the pilot directory. -/
def pilotNames : List (Nat × String) :=
  [(1, "userId"), (2, "textEncodedORAddress"), (3, "rfc822Mailbox"), (4, "info"),
    (5, "favouriteDrink"), (6, "roomNumber"), (7, "photo"), (8, "userClass"), (9, "host"),
    (10, "manager"), (11, "documentIdentifier"), (12, "documentTitle"), (13, "documentVersion"),
    (14, "documentAuthor"), (15, "documentLocation"), (20, "homeTelephoneNumber"),
    (21, "secretary"), (22, "otherMailbox"), (23, "lastModifiedTime"), (24, "lastModifiedBy"),
    (25, "domainComponent"), (26, "aRecord"), (27, "pilotAttributeType27"), (28, "mXRecord"),
    (29, "nSRecord"), (30, "sOARecord"), (31, "cNAMERecord"), (37, "associatedDomain"),
    (38, "associatedName"), (39, "homePostalAddress"), (40, "personalTitle"),
    (41, "mobileTelephoneNumber"), (42, "pagerTelephoneNumber"), (43, "friendlyCountryName"),
    (44, "uniqueIdentifier"), (45, "organizationalStatus"), (46, "janetMailbox"),
    (47, "mailPreferenceOption"), (48, "buildingName"), (49, "dSAQuality"),
    (50, "singleLevelQuality"), (51, "subtreeMinimumQuality"), (52, "subtreeMaximumQuality"),
    (53, "personalSignature"), (54, "dITRedirect"), (55, "audio"), (56, "documentPublisher")]

/-- The kinds of signed messages. -/
def messageNames : List (Nat × String) :=
  [(1, "emailAddress"), (2, "unstructuredName"), (3, "contentType"), (4, "messageDigest"),
    (5, "signingTime"), (6, "countersignature"), (7, "challengePassword"),
    (8, "unstructuredAddress"), (9, "extendedCertificateAttributes"), (14, "Extension Request"),
    (15, "S/MIME Capabilities"), (16, "S/MIME"), (20, "friendlyName"), (21, "localKeyID")]

/-- The kinds of persons. -/
def personNames : List (Nat × String) :=
  [(1, "id-pda-dateOfBirth"), (2, "id-pda-placeOfBirth"), (3, "id-pda-gender"),
    (4, "id-pda-countryOfCitizenship"), (5, "id-pda-countryOfResidence")]

/-- The kinds of places of registration. -/
def registrationNames : List (Nat × String) :=
  [(1, "jurisdictionLocalityName"), (2, "jurisdictionStateOrProvinceName"),
    (3, "jurisdictionCountryName")]

/-- The kinds of national registers. -/
def registerNames : List (Nat × String) :=
  [(1, "OGRN"), (3, "SNILS"), (5, "OGRNIP"), (111, "Signing Tool of Subject"),
    (112, "Signing Tool of Issuer"), (113, "Class of Signing Tool")]

/-- The families, each with the arcs before the last one. -/
def families : List (List Nat × List (Nat × String)) :=
  [([2, 5, 4], directoryNames), ([0, 9, 2342, 19200300, 100, 1], pilotNames),
    ([1, 2, 840, 113549, 1, 9], messageNames), ([1, 3, 6, 1, 5, 5, 7, 9], personNames),
    ([1, 3, 6, 1, 4, 1, 311, 60, 2, 1], registrationNames), ([1, 2, 643, 100], registerNames),
    ([1, 2, 643, 3, 131, 1], [(1, "INN")])]

/-- The long name of a kind. -/
def longName (kind : List Nat) : String :=
  let found := do
    let names ← families.lookup kind.dropLast
    names.lookup (← kind.getLast?)
  found.getD (Der.dotted kind)

/-- A kind outside every family is written by its arcs. -/
theorem longName_of_lookup_eq_none {kind : List Nat}
    (outside : families.lookup kind.dropLast = none) :
    longName kind = Der.dotted kind := by
  simp [longName, outside]

end InstanceLink.AttributeKind
