import EnclaveProvenance.Certificate.DirectoryNames

/-!
Names of certificates and signed messages: extensions, purposes, algorithms, curves and content
types. Such an identifier keeps the whole name that its definition gives it.
-/

namespace EnclaveProvenance.NameFamily

def certificate : List NameFamily := [
  ⟨[2, 5, 1, 5], [(55, "ID-AT-CLEARANCE")]⟩,
  ⟨[2, 5, 29], [
    (9, "ID-CE-SUBJECTDIRECTORYATTRIBUTES"), (14, "ID-CE-SUBJECTKEYIDENTIFIER"),
    (15, "ID-CE-KEYUSAGE"), (16, "ID-CE-PRIVATEKEYUSAGEPERIOD"), (17, "ID-CE-SUBJECTALTNAME"),
    (18, "ID-CE-ISSUERALTNAME"), (19, "ID-CE-BASICCONSTRAINTS"), (20, "ID-CE-CRLNUMBER"),
    (21, "ID-CE-CRLREASONS"), (23, "ID-CE-HOLDINSTRUCTIONCODE"), (24, "ID-CE-INVALIDITYDATE"),
    (27, "ID-CE-DELTACRLINDICATOR"), (28, "ID-CE-ISSUINGDISTRIBUTIONPOINT"),
    (29, "ID-CE-CERTIFICATEISSUER"), (30, "ID-CE-NAMECONSTRAINTS"),
    (31, "ID-CE-CRLDISTRIBUTIONPOINTS"), (32, "ID-CE-CERTIFICATEPOLICIES"),
    (33, "ID-CE-POLICYMAPPINGS"), (35, "ID-CE-AUTHORITYKEYIDENTIFIER"),
    (36, "ID-CE-POLICYCONSTRAINTS"), (37, "ID-CE-EXTKEYUSAGE"), (46, "ID-CE-FRESHESTCRL"),
    (54, "ID-CE-INHIBITANYPOLICY"), (55, "ID-CE-TARGETINFORMATION"), (56, "ID-CE-NOREVAVAIL")]⟩,
  ⟨[2, 5, 29, 32], [(0, "ANYPOLICY")]⟩,
  ⟨[2, 5, 29, 37], [(0, "ANYEXTENDEDKEYUSAGE")]⟩,
  ⟨[1, 3, 6, 1, 5, 5], [(7, "ID-PKIX")]⟩,
  ⟨[1, 3, 6, 1, 5, 5, 7], [
    (1, "ID-PE"), (2, "ID-QT"), (3, "ID-KP"), (4, "ID-IT"), (5, "ID-PKIP"), (6, "ID-ALG"),
    (7, "ID-CMC"), (10, "ID-ACA"), (12, "ID-CCT"), (17, "ID-STC"), (18, "ID-SWB"), (19, "ID-SVP"),
    (48, "ID-AD")]⟩,
  ⟨[1, 3, 6, 1, 5, 5, 7, 1], [
    (1, "ID-PE-AUTHORITYINFOACCESS"), (4, "ID-PE-AC-AUDITIDENTITY"), (6, "ID-PE-AACONTROLS"),
    (10, "ID-PE-AC-PROXYING"), (11, "ID-PE-SUBJECTINFOACCESS")]⟩,
  ⟨[1, 3, 6, 1, 5, 5, 7, 2], [(1, "ID-QT-CPS"), (2, "ID-QT-UNOTICE")]⟩,
  ⟨[1, 3, 6, 1, 5, 5, 7, 3], [
    (1, "ID-KP-SERVERAUTH"), (2, "ID-KP-CLIENTAUTH"), (3, "ID-KP-CODESIGNING"),
    (4, "ID-KP-EMAILPROTECTION"), (8, "ID-KP-TIMESTAMPING"), (9, "ID-KP-OCSPSIGNING"),
    (15, "ID-KP-SCVPSERVER"), (16, "ID-KP-SCVPCLIENT"), (27, "ID-KP-CMCCA"), (28, "ID-KP-CMCRA")]⟩,
  ⟨[1, 3, 6, 1, 5, 5, 7, 4], [
    (1, "ID-IT-CAPROTENCCERT"), (2, "ID-IT-SIGNKEYPAIRTYPES"), (3, "ID-IT-ENCKEYPAIRTYPES"),
    (4, "ID-IT-PREFERREDSYMMALG"), (5, "ID-IT-CAKEYUPDATEINFO"), (6, "ID-IT-CURRENTCRL"),
    (7, "ID-IT-UNSUPPORTEDOIDS"), (10, "ID-IT-KEYPAIRPARAMREQ"), (11, "ID-IT-KEYPAIRPARAMREP"),
    (12, "ID-IT-REVPASSPHRASE"), (13, "ID-IT-IMPLICITCONFIRM"), (14, "ID-IT-CONFIRMWAITTIME"),
    (15, "ID-IT-ORIGPKIMESSAGE"), (16, "ID-IT-SUPPLANGTAGS")]⟩,
  ⟨[1, 3, 6, 1, 5, 5, 7, 5], [(1, "ID-REGCTRL"), (2, "ID-REGINFO")]⟩,
  ⟨[1, 3, 6, 1, 5, 5, 7, 5, 1], [
    (1, "ID-REGCTRL-REGTOKEN"), (2, "ID-REGCTRL-AUTHENTICATOR"),
    (3, "ID-REGCTRL-PKIPUBLICATIONINFO"), (4, "ID-REGCTRL-PKIARCHIVEOPTIONS"),
    (5, "ID-REGCTRL-OLDCERTID"), (6, "ID-REGCTRL-PROTOCOLENCRKEY")]⟩,
  ⟨[1, 3, 6, 1, 5, 5, 7, 5, 2], [(1, "ID-REGINFO-UTF8PAIRS"), (2, "ID-REGINFO-CERTREQ")]⟩,
  ⟨[1, 3, 6, 1, 5, 5, 7, 6], [(2, "ID-ALG-NOSIGNATURE")]⟩,
  ⟨[1, 3, 6, 1, 5, 5, 7, 7], [
    (1, "ID-CMC-STATUSINFO"), (2, "ID-CMC-IDENTIFICATION"), (3, "ID-CMC-IDENTITYPROOF"),
    (4, "ID-CMC-DATARETURN"), (5, "ID-CMC-TRANSACTIONID"), (6, "ID-CMC-SENDERNONCE"),
    (7, "ID-CMC-RECIPIENTNONCE"), (8, "ID-CMC-ADDEXTENSIONS"), (9, "ID-CMC-ENCRYPTEDPOP"),
    (10, "ID-CMC-DECRYPTEDPOP"), (11, "ID-CMC-LRAPOPWITNESS"), (15, "ID-CMC-GETCERT"),
    (16, "ID-CMC-GETCRL"), (17, "ID-CMC-REVOKEREQUEST"), (18, "ID-CMC-REGINFO"),
    (19, "ID-CMC-RESPONSEINFO"), (21, "ID-CMC-QUERYPENDING"), (22, "ID-CMC-POPLINKRANDOM"),
    (23, "ID-CMC-POPLINKWITNESS"), (24, "ID-CMC-CONFIRMCERTACCEPTANCE"),
    (25, "ID-CMC-STATUSINFOV2"), (26, "ID-CMC-TRUSTEDANCHORS"), (27, "ID-CMC-AUTHDATA"),
    (28, "ID-CMC-BATCHREQUESTS"), (29, "ID-CMC-BATCHRESPONSES"), (30, "ID-CMC-PUBLISHCERT"),
    (31, "ID-CMC-MODCERTTEMPLATE"), (32, "ID-CMC-CONTROLPROCESSED"),
    (33, "ID-CMC-POPLINKWITNESSV2"), (34, "ID-CMC-IDENTITYPROOFV2")]⟩,
  ⟨[1, 3, 6, 1, 5, 5, 7, 10], [
    (1, "ID-ACA-AUTHENTICATIONINFO"), (2, "ID-ACA-ACCESSIDENTITY"),
    (3, "ID-ACA-CHARGINGIDENTITY"), (4, "ID-ACA-GROUP"), (6, "ID-ACA-ENCATTRS")]⟩,
  ⟨[1, 3, 6, 1, 5, 5, 7, 12], [(2, "ID-CCT-PKIDATA"), (3, "ID-CCT-PKIRESPONSE")]⟩,
  ⟨[1, 3, 6, 1, 5, 5, 7, 48], [
    (1, "ID-AD-OCSP"), (2, "ID-AD-CAISSUERS"), (3, "ID-AD-TIMESTAMPING"),
    (5, "ID-AD-CAREPOSITORY")]⟩,
  ⟨[1, 3, 6, 1, 5, 5, 7, 48, 1], [
    (1, "ID-PKIX-OCSP-BASIC"), (2, "ID-PKIX-OCSP-NONCE"), (3, "ID-PKIX-OCSP-CRL"),
    (4, "ID-PKIX-OCSP-RESPONSE"), (5, "ID-PKIX-OCSP-NOCHECK"), (6, "ID-PKIX-OCSP-ARCHIVE-CUTOFF"),
    (7, "ID-PKIX-OCSP-SERVICE-LOCATOR"), (8, "ID-PKIX-OCSP-PREF-SIG-ALGS"),
    (9, "ID-PKIX-OCSP-EXTENDED-REVOKE")]⟩,
  ⟨[1, 2, 840, 10040], [(2, "HOLDINSTRUCTION")]⟩,
  ⟨[1, 2, 840, 10040, 2], [
    (1, "ID-HOLDINSTRUCTION-NONE"), (2, "ID-HOLDINSTRUCTION-CALLISSUER"),
    (3, "ID-HOLDINSTRUCTION-REJECT")]⟩,
  ⟨[1, 3, 6, 1, 4, 1, 11129, 2, 4], [
    (2, "CT-PRECERT-SCTS"), (3, "CT-PRECERT-POISON"), (4, "CT-PRECERT-SIGNING-CERT")]⟩]

def algorithm : List NameFamily := [
  ⟨[1, 2, 840, 113533, 7, 66], [(13, "ID-PASSWORDBASEDMAC"), (30, "ID-DHBASEDMAC")]⟩,
  ⟨[1, 2, 840, 113549, 1], [(1, "PKCS-1"), (9, "PKCS-9")]⟩,
  ⟨[1, 2, 840, 113549, 1, 1], [
    (1, "RSAENCRYPTION"), (2, "MD2WITHRSAENCRYPTION"), (4, "MD5WITHRSAENCRYPTION"),
    (5, "SHA1WITHRSAENCRYPTION"), (7, "ID-RSAES-OAEP"), (8, "ID-MGF1"), (9, "ID-PSPECIFIED"),
    (10, "ID-RSASSA-PSS"), (11, "SHA256WITHRSAENCRYPTION"), (12, "SHA384WITHRSAENCRYPTION"),
    (13, "SHA512WITHRSAENCRYPTION"), (14, "SHA224WITHRSAENCRYPTION")]⟩,
  ⟨[1, 2, 840, 113549, 1, 5], [(12, "ID-PBKDF2")]⟩,
  ⟨[1, 2, 840, 113549, 2], [(2, "ID-MD2"), (5, "ID-MD5")]⟩,
  ⟨[1, 2, 840, 113549, 3], [(2, "RC2-CBC"), (7, "DES-EDE3-CBC")]⟩,
  ⟨[1, 2, 840, 10040, 4], [(1, "ID-DSA"), (3, "DSA-WITH-SHA1")]⟩,
  ⟨[1, 2, 840, 10045, 2], [(1, "ID-ECPUBLICKEY")]⟩,
  ⟨[1, 2, 840, 10045, 3, 1], [(1, "SECP192R1"), (7, "SECP256R1")]⟩,
  ⟨[1, 2, 840, 10045, 4], [(1, "ECDSA-WITH-SHA1")]⟩,
  ⟨[1, 2, 840, 10045, 4, 3], [
    (1, "ECDSA-WITH-SHA224"), (2, "ECDSA-WITH-SHA256"), (3, "ECDSA-WITH-SHA384"),
    (4, "ECDSA-WITH-SHA512")]⟩,
  ⟨[1, 2, 840, 10046, 2], [(1, "DHPUBLICNUMBER")]⟩,
  ⟨[1, 3, 6, 1, 5, 5, 8, 1], [(2, "HMAC-SHA1")]⟩,
  ⟨[1, 3, 6, 1, 4, 1, 1722, 12, 2, 1], [
    (5, "ID-BLAKE2B160"), (8, "ID-BLAKE2B256"), (12, "ID-BLAKE2B384"), (16, "ID-BLAKE2B512")]⟩,
  ⟨[1, 3, 6, 1, 4, 1, 1722, 12, 2, 2], [
    (4, "ID-BLAKE2S128"), (5, "ID-BLAKE2S160"), (7, "ID-BLAKE2S224"), (8, "ID-BLAKE2S256")]⟩,
  ⟨[1, 3, 14, 3, 2], [(26, "ID-SHA1")]⟩,
  ⟨[1, 3, 101], [(110, "ID-X25519"), (111, "ID-X448"), (112, "ID-ED25519"), (113, "ID-ED448")]⟩,
  ⟨[1, 3, 132, 0], [
    (1, "SECT163K1"), (15, "SECT163R2"), (16, "SECT283K1"), (17, "SECT283R1"), (26, "SECT233K1"),
    (27, "SECT233R1"), (33, "SECP224R1"), (34, "SECP384R1"), (35, "SECP521R1"), (36, "SECT409K1"),
    (37, "SECT409R1"), (38, "SECT571K1"), (39, "SECT571R1")]⟩,
  ⟨[1, 3, 132, 1], [(12, "ID-ECDH"), (13, "ID-ECMQV")]⟩,
  ⟨[2, 16, 840, 1, 101, 2, 1, 1], [(22, "ID-KEYEXCHANGEALGORITHM")]⟩,
  ⟨[2, 16, 840, 1, 101, 3, 4], [(1, "AES")]⟩,
  ⟨[2, 16, 840, 1, 101, 3, 4, 1], [
    (2, "ID-AES128-CBC"), (5, "ID-AES128-WRAP"), (6, "ID-AES128-GCM"), (7, "ID-AES128-CCM"),
    (22, "ID-AES192-CBC"), (25, "ID-AES192-WRAP"), (26, "ID-AES192-GCM"), (27, "ID-AES192-CCM"),
    (42, "ID-AES256-CBC"), (45, "ID-AES256-WRAP"), (46, "ID-AES256-GCM"), (47, "ID-AES256-CCM")]⟩,
  ⟨[2, 16, 840, 1, 101, 3, 4, 2], [
    (1, "ID-SHA256"), (2, "ID-SHA384"), (3, "ID-SHA512"), (4, "ID-SHA224"), (7, "ID-SHA3-224"),
    (8, "ID-SHA3-256"), (9, "ID-SHA3-384"), (10, "ID-SHA3-512"), (11, "ID-SHAKE128"),
    (12, "ID-SHAKE256")]⟩,
  ⟨[2, 16, 840, 1, 101, 3, 4, 3], [(1, "DSA-WITH-SHA224"), (2, "DSA-WITH-SHA256")]⟩]

def message : List NameFamily := [
  ⟨[1, 2, 840, 113549, 1, 7], [
    (1, "ID-DATA"), (2, "ID-SIGNEDDATA"), (3, "ID-ENVELOPEDDATA"), (5, "ID-DIGESTEDDATA"),
    (6, "ID-ENCRYPTEDDATA")]⟩,
  ⟨[1, 2, 840, 113549, 1, 9], [
    (1, "EMAIL"), (3, "ID-CONTENTTYPE"), (4, "ID-MESSAGEDIGEST"), (5, "ID-SIGNINGTIME"),
    (6, "ID-COUNTERSIGNATURE"), (14, "ID-EXTENSIONREQ"), (15, "SMIMECAPABILITIES"),
    (16, "ID-SMIME")]⟩,
  ⟨[1, 2, 840, 113549, 1, 9, 16], [(11, "ID-CAP")]⟩,
  ⟨[1, 2, 840, 113549, 1, 9, 16, 1], [
    (1, "ID-CT-RECEIPT"), (2, "ID-CT-AUTHDATA"), (6, "ID-CT-CONTENTINFO"),
    (9, "ID-CT-COMPRESSEDDATA"), (10, "ID-CT-SCVP-CERTVALREQUEST"),
    (11, "ID-CT-SCVP-CERTVALRESPONSE"), (12, "ID-CT-SCVP-VALPOLREQUEST"),
    (13, "ID-CT-SCVP-VALPOLRESPONSE"), (16, "ID-CT-FIRMWAREPACKAGE"),
    (17, "ID-CT-FIRMWARELOADRECEIPT"), (18, "ID-CT-FIRMWARELOADERROR"),
    (19, "ID-CT-CONTENTCOLLECTION"), (20, "ID-CT-CONTENTWITHATTRS"), (21, "ID-CT-ENCKEYWITHID"),
    (23, "ID-CT-AUTHENVELOPEDDATA")]⟩,
  ⟨[1, 2, 840, 113549, 1, 9, 16, 2], [
    (1, "ID-AA-RECEIPTREQUEST"), (2, "ID-AA-SECURITYLABEL"), (3, "ID-AA-MLEXPANDHISTORY"),
    (4, "ID-AA-CONTENTHINT"), (5, "ID-AA-MSGSIGDIGEST"), (6, "ID-AA-ENCAPCONTENTTYPE"),
    (7, "ID-AA-CONTENTIDENTIFIER"), (9, "ID-AA-EQUIVALENTLABELS"), (10, "ID-AA-CONTENTREFERENCE"),
    (11, "ID-AA-ENCRYPKEYPREF"), (12, "ID-AA-SIGNINGCERTIFICATE"), (14, "ID-AA-TIMESTAMPTOKEN"),
    (34, "ID-AA-CMC-UNSIGNEDDATA"), (35, "ID-AA-FIRMWAREPACKAGEID"),
    (36, "ID-AA-TARGETHARDWAREIDS"), (37, "ID-AA-DECRYPTKEYID"), (38, "ID-AA-IMPLCRYPTOALGS"),
    (39, "ID-AA-WRAPPEDFIRMWAREKEY"), (40, "ID-AA-COMMUNITYIDENTIFIERS"),
    (42, "ID-AA-FIRMWAREPACKAGEINFO"), (43, "ID-AA-IMPLCOMPRESSALGS"),
    (47, "ID-AA-SIGNINGCERTIFICATEV2")]⟩,
  ⟨[1, 2, 840, 113549, 1, 9, 16, 3], [
    (5, "ID-ALG-ESDH"), (6, "ID-ALG-CMS3DESWRAP"), (7, "ID-ALG-CMSRC2WRAP"),
    (8, "ID-ALG-ZLIBCOMPRESS"), (9, "ID-ALG-PWRI-KEK"), (10, "ID-ALG-SSDH")]⟩,
  ⟨[1, 2, 840, 113549, 1, 9, 16, 11], [(1, "ID-CAP-PREFERBINARYINSIDE")]⟩]

def security : List NameFamily := certificate ++ algorithm ++ message

end EnclaveProvenance.NameFamily
