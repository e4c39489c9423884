/-
# Names of object identifiers

Registries of directory attributes, certificate extensions and algorithms give
object identifiers names.  Where several names are registered the shortest one
is kept.
-/

import SecurityTokens.Der.ObjectId

namespace SecurityTokens
namespace Der

/-- The registered names, by the arcs in front of the last one and by this last
one. -/
def registeredNames : List (List Nat × List (Nat × String)) :=
   -- attributes of the directory and the collective ones
  [([2, 5, 4],
     [(0, "objectClass"), (1, "aliasedObjectName"), (2, "knowledgeInformation"), (3, "cn"),
      (4, "sn"), (5, "serialNumber"), (6, "c"), (7, "l"), (8, "st"), (9, "street"), (10, "o"),
      (11, "ou"), (12, "title"), (13, "description"), (14, "searchGuide"),
      (15, "businessCategory"), (16, "postalAddress"), (17, "postalCode"), (18, "postOfficeBox"),
      (19, "physicalDeliveryOfficeName"), (20, "telephoneNumber"), (21, "telexNumber"),
      (22, "teletexTerminalIdentifier"), (23, "facsimileTelephoneNumber"), (24, "x121Address"),
      (25, "internationaliSDNNumber"), (26, "registeredAddress"), (27, "destinationIndicator"),
      (28, "preferredDeliveryMethod"), (29, "presentationAddress"),
      (30, "supportedApplicationContext"), (31, "member"), (32, "owner"), (33, "roleOccupant"),
      (34, "seeAlso"), (35, "userPassword"), (36, "userCertificate"), (37, "cACertificate"),
      (38, "authorityRevocationList"), (39, "certificateRevocationList"),
      (40, "crossCertificatePair"), (41, "name"), (42, "givenName"), (43, "initials"),
      (44, "generationQualifier"), (45, "x500UniqueIdentifier"), (46, "dnQualifier"),
      (47, "enhancedSearchGuide"), (48, "protocolInformation"), (49, "distinguishedName"),
      (50, "uniqueMember"), (51, "houseIdentifier"), (52, "supportedAlgorithms"),
      (53, "deltaRevocationList"), (54, "dmdName"), (55, "id-at-clearance"), (65, "pseudonym"),
      (72, "id-at-role")]),
   ([2, 5, 4, 7], [(1, "c-l")]),
   ([2, 5, 4, 8], [(1, "c-st")]),
   ([2, 5, 4, 9], [(1, "c-street")]),
   ([2, 5, 4, 10], [(1, "c-o")]),
   ([2, 5, 4, 11], [(1, "c-ou")]),
   ([2, 5, 4, 16], [(1, "c-PostalAddress")]),
   ([2, 5, 4, 17], [(1, "c-PostalCode")]),
   ([2, 5, 4, 18], [(1, "c-PostOfficeBox")]),
   ([2, 5, 4, 19], [(1, "c-PhysicalDeliveryOfficeName")]),
   ([2, 5, 4, 20], [(1, "c-TelephoneNumber")]),
   ([2, 5, 4, 21], [(1, "c-TelexNumber")]),
   ([2, 5, 4, 23], [(1, "c-FacsimileTelephoneNumber")]),
   ([2, 5, 4, 25], [(1, "c-InternationalISDNNumber")]),
   -- object classes, matching rules and schema attributes of the directory
   ([2, 5, 6],
     [(0, "top"), (1, "alias"), (2, "country"), (3, "locality"), (4, "organization"),
      (5, "organizationalUnit"), (6, "person"), (7, "organizationalPerson"),
      (8, "organizationalRole"), (9, "groupOfNames"), (10, "residentialPerson"),
      (11, "applicationProcess"), (12, "applicationEntity"), (13, "dSA"), (14, "device"),
      (15, "strongAuthenticationUser"), (16, "certificationAuthority"),
      (17, "groupOfUniqueNames"), (18, "userSecurityInformation"), (19, "cRLDistributionPoint"),
      (20, "dmd"), (21, "pkiUser"), (22, "pkiCA"), (23, "deltaCRL")]),
   ([2, 5, 6, 16], [(2, "certificationAuthority-V2")]),
   ([2, 5, 13],
     [(0, "objectIdentifierMatch"), (1, "distinguishedNameMatch"), (2, "caseIgnoreMatch"),
      (3, "caseIgnoreOrderingMatch"), (4, "caseIgnoreSubstringsMatch"), (5, "caseExactMatch"),
      (6, "caseExactOrderingMatch"), (7, "caseExactSubstringsMatch"), (8, "numericStringMatch"),
      (9, "numericStringOrderingMatch"), (10, "numericStringSubstringsMatch"),
      (11, "caseIgnoreListMatch"), (12, "caseIgnoreListSubstringsMatch"), (13, "booleanMatch"),
      (14, "integerMatch"), (15, "integerOrderingMatch"), (16, "bitStringMatch"),
      (17, "octetStringMatch"), (18, "octetStringOrderingMatch"), (20, "telephoneNumberMatch"),
      (21, "telephoneNumberSubstringsMatch"), (22, "presentationAddressMatch"),
      (23, "uniqueMemberMatch"), (24, "protocolInformationMatch"), (27, "generalizedTimeMatch"),
      (28, "generalizedTimeOrderingMatch"), (29, "integerFirstComponentMatch"),
      (30, "objectIdentifierFirstComponentMatch"), (31, "directoryStringFirstComponentMatch"),
      (32, "wordMatch"), (33, "keywordMatch"), (34, "certificateExactMatch"),
      (35, "certificateMatch"), (36, "certificatePairExactMatch"), (37, "certificatePairMatch"),
      (38, "certificateListExactMatch"), (39, "certificateListMatch"),
      (40, "algorithmIdentifierMatch"), (41, "storedPrefixMatch")]),
   ([2, 5, 17], [(0, "subentry"), (2, "collectiveAttributeSubentry")]),
   ([2, 5, 18],
     [(1, "createTimestamp"), (2, "modifyTimestamp"), (3, "creatorsName"), (4, "modifiersName"),
      (5, "administrativeRole"), (6, "subtreeSpecification"), (7, "collectiveExclusions"),
      (10, "subschemaSubentry"), (12, "collectiveAttributeSubentries")]),
   ([2, 5, 20], [(1, "subschema")]),
   ([2, 5, 21],
     [(1, "dITStructureRules"), (2, "dITContentRules"), (4, "matchingRules"),
      (5, "attributeTypes"), (6, "objectClasses"), (7, "nameForms"), (8, "matchingRuleUse"),
      (9, "structuralObjectClass"), (10, "governingStructureRule")]),
   ([1, 3, 6, 1, 1], [(4, "vendorName"), (5, "vendorVersion"), (20, "entryDN")]),
   ([1, 3, 6, 1, 1, 3], [(1, "uidObject")]),
   ([1, 3, 6, 1, 1, 16], [(2, "uuidMatch"), (3, "uuidOrderingMatch"), (4, "entryUUID")]),
   ([1, 3, 6, 1, 4, 1, 1466], [(344, "dcObject"), (345, "domainNameForm")]),
   ([1, 3, 6, 1, 4, 1, 1466, 101, 119],
     [(2, "dynamicObject"), (3, "entryTtl"), (4, "dynamicSubtrees")]),
   ([1, 3, 6, 1, 4, 1, 1466, 101, 120],
     [(5, "namingContexts"), (6, "altServer"), (7, "supportedExtension"),
      (13, "supportedControl"), (14, "supportedSASLMechanisms"), (15, "supportedLDAPVersion"),
      (16, "ldapSyntaxes"), (111, "extensibleObject")]),
   ([1, 3, 6, 1, 4, 1, 1466, 109, 114],
     [(1, "caseExactIA5Match"), (2, "caseIgnoreIA5Match"), (3, "caseIgnoreIA5SubstringsMatch")]),
   ([1, 3, 6, 1, 4, 1, 4203, 1, 3], [(5, "supportedFeatures")]),
   ([1, 2, 36, 79672281, 1, 13],
     [(2, "componentFilterMatch"), (3, "rdnMatch"), (5, "presentMatch"),
      (6, "allComponentsMatch"), (7, "directoryComponentsMatch")]),
   -- persons, documents, accounts and calendars
   ([0, 9, 2342, 19200300, 100, 1],
     [(1, "uid"), (2, "textEncodedORAddress"), (3, "mail"), (4, "info"), (5, "drink"),
      (6, "roomNumber"), (7, "photo"), (8, "userClass"), (9, "host"), (10, "manager"),
      (11, "documentIdentifier"), (12, "documentTitle"), (13, "documentVersion"),
      (14, "documentAuthor"), (15, "documentLocation"), (20, "homePhone"), (21, "secretary"),
      (22, "otherMailbox"), (23, "lastModifiedTime"), (24, "lastModifiedBy"), (25, "dc"),
      (26, "aRecord"), (27, "mDRecord"), (28, "mXRecord"), (29, "nSRecord"), (30, "sOARecord"),
      (31, "cNAMERecord"), (37, "associatedDomain"), (38, "associatedName"),
      (39, "homePostalAddress"), (40, "personalTitle"), (41, "mobile"), (42, "pager"), (43, "co"),
      (44, "uniqueIdentifier"), (45, "organizationalStatus"), (46, "janetMailbox"),
      (47, "mailPreferenceOption"), (48, "buildingName"), (49, "dSAQuality"),
      (50, "singleLevelQuality"), (51, "subtreeMinimumQuality"), (52, "subtreeMaximumQuality"),
      (53, "personalSignature"), (54, "dITRedirect"), (55, "audio"), (56, "documentPublisher"),
      (60, "jpegPhoto")]),
   ([0, 9, 2342, 19200300, 100, 4],
     [(3, "pilotObject"), (4, "pilotPerson"), (5, "account"), (6, "document"), (7, "room"),
      (9, "documentSeries"), (13, "domain"), (14, "rFC822localPart"), (15, "dNSDomain"),
      (17, "domainRelatedObject"), (18, "friendlyCountry"), (19, "simpleSecurityObject"),
      (20, "pilotOrganization"), (21, "pilotDSA"), (22, "qualityLabelledData")]),
   ([2, 16, 840, 1, 113730, 3, 1],
     [(1, "carLicense"), (2, "departmentNumber"), (3, "employeeNumber"), (4, "employeeType"),
      (34, "ref"), (39, "preferredLanguage"), (40, "userSMIMECertificate"), (216, "userPKCS12"),
      (241, "displayName")]),
   ([2, 16, 840, 1, 113730, 3, 2], [(2, "inetOrgPerson"), (6, "referral")]),
   ([1, 3, 6, 1, 1, 1, 1],
     [(0, "uidNumber"), (1, "gidNumber"), (2, "gecos"), (3, "homeDirectory"), (4, "loginShell"),
      (5, "shadowLastChange"), (6, "shadowMin"), (7, "shadowMax"), (8, "shadowWarning"),
      (9, "shadowInactive"), (10, "shadowExpire"), (11, "shadowFlag"), (12, "memberUid"),
      (13, "memberNisNetgroup"), (14, "nisNetgroupTriple"), (15, "ipServicePort"),
      (16, "ipServiceProtocol"), (17, "ipProtocolNumber"), (18, "oncRpcNumber"),
      (19, "ipHostNumber"), (20, "ipNetworkNumber"), (21, "ipNetmaskNumber"), (22, "macAddress"),
      (23, "bootParameter"), (24, "bootFile"), (26, "nisMapName"), (27, "nisMapEntry")]),
   ([1, 3, 6, 1, 1, 1, 2],
     [(0, "posixAccount"), (1, "shadowAccount"), (2, "posixGroup"), (3, "ipService"),
      (4, "ipProtocol"), (5, "oncRpc"), (6, "ipHost"), (7, "ipNetwork"), (8, "nisNetgroup"),
      (9, "nisMap"), (10, "nisObject"), (11, "ieee802Device"), (12, "bootableDevice")]),
   ([1, 3, 6, 1, 4, 1, 250, 1], [(57, "labeledURI")]),
   ([1, 3, 6, 1, 4, 1, 250, 3], [(1, "labeledURIObject")]),
   ([1, 2, 840, 113556, 1, 4],
     [(478, "calCalURI"), (479, "calFBURL"), (480, "calCAPURI"), (481, "calCalAdrURI"),
      (482, "calOtherCalURIs"), (483, "calOtherFBURLs"), (484, "calOtherCAPURIs"),
      (485, "calOtherCalAdrURIs")]),
   ([1, 2, 840, 113556, 1, 5], [(87, "calEntry")]),
   ([1, 3, 6, 1, 4, 1, 11, 1, 3, 1, 1],
     [(0, "defaultServerList"), (1, "defaultSearchBase"), (2, "preferredServerList"),
      (3, "searchTimeLimit"), (4, "bindTimeLimit"), (5, "followReferrals"),
      (6, "authenticationMethod"), (7, "profileTTL"), (9, "attributeMap"),
      (10, "credentialLevel"), (11, "objectclassMap"), (12, "defaultSearchScope"),
      (13, "serviceCredentialLevel"), (14, "serviceSearchDescriptor"),
      (15, "serviceAuthenticationMethod"), (16, "dereferenceAliases")]),
   ([1, 3, 6, 1, 4, 1, 11, 1, 3, 1, 2], [(5, "DUAConfigProfile")]),
   -- certificate extensions, key purposes and access methods
   ([2, 5, 1, 5], [(55, "id-at-clearance-rfc3281")]),
   ([2, 5, 29],
     [(9, "id-ce-subjectDirectoryAttributes"), (14, "id-ce-subjectKeyIdentifier"),
      (15, "id-ce-keyUsage"), (16, "id-ce-privateKeyUsagePeriod"), (17, "id-ce-subjectAltName"),
      (18, "id-ce-issuerAltName"), (19, "id-ce-basicConstraints"), (20, "id-ce-cRLNumber"),
      (21, "id-ce-cRLReasons"), (23, "id-ce-holdInstructionCode"), (24, "id-ce-invalidityDate"),
      (27, "id-ce-deltaCRLIndicator"), (28, "id-ce-issuingDistributionPoint"),
      (29, "id-ce-certificateIssuer"), (30, "id-ce-nameConstraints"),
      (31, "id-ce-cRLDistributionPoints"), (32, "id-ce-certificatePolicies"),
      (33, "id-ce-policyMappings"), (35, "id-ce-authorityKeyIdentifier"),
      (36, "id-ce-policyConstraints"), (37, "id-ce-extKeyUsage"), (46, "id-ce-freshestCRL"),
      (54, "id-ce-inhibitAnyPolicy"), (55, "id-ce-targetInformation")]),
   ([2, 5, 29, 32], [(0, "anyPolicy")]),
   ([2, 5, 29, 37], [(0, "anyExtendedKeyUsage")]),
   ([2, 2, 840, 10040], [(2, "holdInstruction")]),
   ([2, 2, 840, 10040, 2],
     [(1, "id-holdinstruction-none"), (2, "id-holdinstruction-callissuer"),
      (3, "id-holdinstruction-reject")]),
   ([1, 3, 6, 1, 5, 5], [(7, "id-pkix")]),
   ([1, 3, 6, 1, 5, 5, 7],
     [(0, "id-mod"), (1, "id-pe"), (2, "id-qt"), (3, "id-kp"), (4, "id-it"), (5, "id-pkip"),
      (6, "id-alg"), (7, "id-cmc"), (8, "id-on"), (9, "id-pda"), (10, "id-aca"), (11, "id-qcs"),
      (12, "id-cct"), (13, "id-test"), (14, "id-cp"), (15, "id-cet"), (16, "id-ri"),
      (17, "id-stc"), (18, "id-swb"), (19, "id-svp"), (20, "id-logo"), (21, "id-ppl"),
      (22, "id-mr"), (23, "id-skis"), (48, "id-ad")]),
   ([1, 3, 6, 1, 5, 5, 7, 1],
     [(1, "id-pe-authorityInfoAccess"), (4, "id-pe-ac-auditIdentity"), (6, "id-pe-aaControls"),
      (10, "id-pe-ac-proxying"), (11, "id-pe-subjectInfoAccess")]),
   ([1, 3, 6, 1, 5, 5, 7, 2], [(1, "id-qt-cps"), (2, "id-qt-unotice")]),
   ([1, 3, 6, 1, 5, 5, 7, 3],
     [(1, "id-kp-serverAuth"), (2, "id-kp-clientAuth"), (3, "id-kp-codeSigning"),
      (4, "id-kp-emailProtection"), (8, "id-kp-timeStamping"), (9, "id-kp-OCSPSigning"),
      (15, "id-kp-scvpServer"), (16, "id-kp-scvpClient")]),
   ([1, 3, 6, 1, 5, 5, 7, 4],
     [(1, "id-it-caProtEncCert"), (2, "id-it-signKeyPairTypes"), (3, "id-it-encKeyPairTypes"),
      (4, "id-it-preferredSymmAlg"), (5, "id-it-caKeyUpdateInfo"), (6, "id-it-currentCRL"),
      (7, "id-it-unsupportedOIDs"), (10, "id-it-keyPairParamReq"), (11, "id-it-keyPairParamRep"),
      (12, "id-it-revPassphrase"), (13, "id-it-implicitConfirm"), (14, "id-it-confirmWaitTime"),
      (15, "id-it-origPKIMessage"), (16, "id-it-suppLangTags")]),
   ([1, 3, 6, 1, 5, 5, 7, 5], [(1, "id-regCtrl"), (2, "id-regInfo")]),
   ([1, 3, 6, 1, 5, 5, 7, 5, 1],
     [(1, "id-regCtrl-regToken"), (2, "id-regCtrl-authenticator"),
      (3, "id-regCtrl-pkiPublicationInfo"), (4, "id-regCtrl-pkiArchiveOptions"),
      (5, "id-regCtrl-oldCertID"), (6, "id-regCtrl-protocolEncrKey")]),
   ([1, 3, 6, 1, 5, 5, 7, 5, 2], [(1, "id-regInfo-utf8Pairs"), (2, "id-regInfo-certReq")]),
   ([1, 3, 6, 1, 5, 5, 7, 6],
     [(2, "id-alg-noSignature"), (3, "id-alg-dh-sig-hmac-sha1"), (4, "id-alg-dh-pop")]),
   ([1, 3, 6, 1, 5, 5, 7, 7],
     [(1, "id-cmc-statusInfo"), (2, "id-cmc-identification"), (3, "id-cmc-identityProof"),
      (4, "id-cmc-dataReturn"), (5, "id-cmc-transactionId"), (6, "id-cmc-senderNonce"),
      (7, "id-cmc-recipientNonce"), (8, "id-cmc-addExtensions"), (9, "id-cmc-encryptedPOP"),
      (10, "id-cmc-decryptedPOP"), (11, "id-cmc-lraPOPWitness"), (15, "id-cmc-getCert"),
      (16, "id-cmc-getCRL"), (17, "id-cmc-revokeRequest"), (18, "id-cmc-regInfo"),
      (19, "id-cmc-responseInfo"), (21, "id-cmc-queryPending"), (22, "id-cmc-popLinkRandom"),
      (23, "id-cmc-popLinkWitness"), (24, "id-cmc-confirmCertAcceptance"),
      (25, "id-cmc-statusInfoV2"), (26, "id-cmc-trustedAnchors"), (27, "id-cmc-authData"),
      (28, "id-cmc-batchRequests"), (29, "id-cmc-batchResponses"), (30, "id-cmc-publishCert"),
      (31, "id-cmc-modCertTemplate"), (32, "id-cmc-controlProcessed"),
      (33, "id-cmc-popLinkWitnessV2"), (34, "id-cmc-identityProofV2")]),
   ([1, 3, 6, 1, 5, 5, 7, 10],
     [(1, "id-aca-authenticationInfo"), (2, "id-aca-accessIdentity"),
      (3, "id-aca-chargingIdentity"), (4, "id-aca-group"), (6, "id-aca-encAttrs")]),
   ([1, 3, 6, 1, 5, 5, 7, 12], [(2, "id-cct-PKIData"), (3, "id-cct-PKIResponse")]),
   ([1, 3, 6, 1, 5, 5, 7, 48],
     [(1, "id-ad-ocsp"), (2, "id-ad-caIssuers"), (3, "id-ad-timeStamping"),
      (5, "id-ad-caRepository")]),
   ([1, 3, 6, 1, 5, 5, 7, 48, 1],
     [(1, "id-pkix-ocsp-basic"), (2, "id-pkix-ocsp-nonce"), (3, "id-pkix-ocsp-crl"),
      (4, "id-pkix-ocsp-response"), (5, "id-pkix-ocsp-nocheck"),
      (6, "id-pkix-ocsp-archive-cutoff"), (7, "id-pkix-ocsp-service-locator"),
      (8, "id-pkix-ocsp-pref-sig-algs"), (9, "id-pkix-ocsp-extended-revoke")]),
   -- signed and enveloped messages
   ([1, 2, 840, 113549, 1], [(1, "pkcs-1"), (9, "pkcs-9")]),
   ([1, 2, 840, 113549, 1, 7],
     [(1, "id-data"), (2, "id-signedData"), (3, "id-envelopedData"), (5, "id-digestedData"),
      (6, "id-encryptedData")]),
   ([1, 2, 840, 113549, 1, 9],
     [(1, "email"), (3, "id-contentType"), (4, "id-messageDigest"), (5, "id-signingTime"),
      (6, "id-countersignature"), (14, "id-ExtensionReq"), (15, "smimeCapabilities"),
      (16, "id-smime")]),
   ([1, 2, 840, 113549, 1, 9, 16],
     [(0, "id-mod"), (1, "id-ct"), (2, "id-aa"), (3, "id-alg"), (4, "id-cd"), (5, "id-spq"),
      (6, "id-cti"), (8, "id-skd"), (9, "id-sti"), (10, "id-eit"), (11, "id-cap"),
      (12, "id-pskc")]),
   ([1, 2, 840, 113549, 1, 9, 16, 1],
     [(1, "id-ct-receipt"), (2, "id-ct-authData"), (6, "id-ct-contentInfo"),
      (9, "id-ct-compressedData"), (16, "id-ct-firmwarePackage"),
      (17, "id-ct-firmwareLoadReceipt"), (18, "id-ct-firmwareLoadError"),
      (19, "id-ct-contentCollection"), (20, "id-ct-contentWithAttrs"), (21, "id-ct-encKeyWithID"),
      (23, "id-ct-authEnvelopedData")]),
   ([1, 2, 840, 113549, 1, 9, 16, 2],
     [(1, "id-aa-receiptRequest"), (2, "id-aa-securityLabel"), (3, "id-aa-mlExpandHistory"),
      (4, "id-aa-contentHint"), (5, "id-aa-msgSigDigest"), (7, "id-aa-contentIdentifier"),
      (9, "id-aa-equivalentLabels"), (10, "id-aa-contentReference"), (11, "id-aa-encrypKeyPref"),
      (12, "id-aa-signingCertificate"), (34, "id-aa-cmc-unsignedData"),
      (35, "id-aa-firmwarePackageID"), (36, "id-aa-targetHardwareIDs"),
      (37, "id-aa-decryptKeyID"), (38, "id-aa-implCryptoAlgs"), (39, "id-aa-wrappedFirmwareKey"),
      (40, "id-aa-communityIdentifiers"), (41, "id-aa-firmwarePackageMessageDigest"),
      (42, "id-aa-firmwarePackageInfo"), (43, "id-aa-implCompressAlgs"),
      (47, "id-aa-signingCertificateV2")]),
   ([1, 2, 840, 113549, 1, 9, 16, 3],
     [(5, "id-alg-ESDH"), (6, "id-alg-CMS3DESwrap"), (7, "id-alg-CMSRC2wrap"),
      (8, "id-alg-zlibCompress"), (9, "id-alg-PWRI-KEK"), (10, "id-alg-SSDH")]),
   ([1, 2, 840, 113549, 1, 9, 16, 11], [(1, "id-cap-preferBinaryInside")]),
   -- algorithms and curves
   ([1, 2, 840, 113549, 1, 1],
     [(1, "rsaEncryption"), (2, "md2WithRSAEncryption"), (4, "md5WithRSAEncryption"),
      (5, "sha1WithRSAEncryption"), (7, "id-RSAES-OAEP"), (8, "id-mgf1"), (9, "id-pSpecified"),
      (10, "id-RSASSA-PSS"), (11, "sha256WithRSAEncryption"), (12, "sha384WithRSAEncryption"),
      (13, "sha512WithRSAEncryption"), (14, "sha224WithRSAEncryption")]),
   ([1, 2, 840, 113549, 1, 5], [(12, "id-PBKDF2")]),
   ([1, 2, 840, 113549, 2],
     [(2, "id-md2"), (5, "id-md5"), (8, "id-hmacWithSHA224"), (9, "id-hmacWithSHA256"),
      (10, "id-hmacWithSHA384"), (11, "id-hmacWithSHA512")]),
   ([1, 2, 840, 113549, 3], [(2, "rc2-cbc"), (7, "des-ede3-cbc")]),
   ([1, 2, 840, 113533, 7, 66], [(13, "id-PasswordBasedMac"), (30, "id-DHBasedMac")]),
   ([1, 2, 840, 10040, 4], [(1, "id-dsa"), (3, "dsa-with-sha1")]),
   ([1, 2, 840, 10045, 1], [(1, "prime-field"), (2, "characteristic-two-field")]),
   ([1, 2, 840, 10045, 2], [(1, "id-ecPublicKey")]),
   ([1, 2, 840, 10045, 3, 1], [(1, "secp192r1"), (7, "secp256r1")]),
   ([1, 2, 840, 10045, 4], [(1, "ecdsa-with-SHA1")]),
   ([1, 2, 840, 10045, 4, 3],
     [(1, "ecdsa-with-SHA224"), (2, "ecdsa-with-SHA256"), (3, "ecdsa-with-SHA384"),
      (4, "ecdsa-with-SHA512")]),
   ([1, 2, 840, 10046, 2], [(1, "dhpublicnumber")]),
   ([1, 3, 6, 1, 5, 5, 8, 1], [(2, "hMAC-SHA1")]),
   ([1, 3, 14, 3, 2], [(26, "id-sha1")]),
   ([1, 3, 101], [(110, "id-X25519"), (111, "id-X448"), (112, "id-Ed25519"), (113, "id-Ed448")]),
   ([1, 3, 132, 0],
     [(1, "sect163k1"), (15, "sect163r2"), (16, "sect283k1"), (17, "sect283r1"),
      (26, "sect233k1"), (27, "sect233r1"), (33, "secp224r1"), (34, "secp384r1"),
      (35, "secp521r1"), (36, "sect409k1"), (37, "sect409r1"), (38, "sect571k1"),
      (39, "sect571r1")]),
   ([1, 3, 132, 1], [(12, "id-ecDH"), (13, "id-ecMQV")]),
   ([2, 16, 840, 1, 101, 2, 1, 1], [(22, "id-keyExchangeAlgorithm")]),
   ([2, 16, 840, 1, 101, 3, 4, 1],
     [(2, "id-aes128-CBC"), (5, "id-aes128-wrap"), (6, "id-aes128-GCM"), (7, "id-aes128-CCM"),
      (22, "id-aes192-CBC"), (25, "id-aes192-wrap"), (26, "id-aes192-GCM"), (27, "id-aes192-CCM"),
      (42, "id-aes256-CBC"), (45, "id-aes256-wrap"), (46, "id-aes256-GCM"),
      (47, "id-aes256-CCM")]),
   ([2, 16, 840, 1, 101, 3, 4, 2],
     [(1, "id-sha256"), (2, "id-sha384"), (3, "id-sha512"), (4, "id-sha224"), (7, "id-sha3-224"),
      (8, "id-sha3-256"), (9, "id-sha3-384"), (10, "id-sha3-512"), (11, "id-shake128"),
      (12, "id-shake256")]),
   ([2, 16, 840, 1, 101, 3, 4, 3], [(1, "dsa-with-sha224"), (2, "dsa-with-sha256")])]

/-- The name under which arcs are registered. -/
def registeredName? (arcs : List Nat) : Option String := do
  let names ← registeredNames.lookup arcs.dropLast
  names.lookup (← arcs.getLast?)

namespace ObjectId

/-- The name of an identifier.  One that is not written in the shortest way is
no registered one, even if its arcs are. -/
def name? (o : ObjectId) : Option String :=
  if o = ofArcs o.arcs then registeredName? o.arcs else none

end ObjectId
end Der
end SecurityTokens
